/-
Module: NetStack.Proofs.Duty
Purpose: What each operation asks the stack to do, that it does exactly that,
  and which frames the stack sends of its own accord.
Main exports:
  Interface.duty, Interface.fetched, Interface.outcome_duty, Interface.outcome_no_duty,
  Interface.Issues, Interface.Sound.issues, Interface.Sound.issues_duty
-/
import NetStack.Proofs.Handling
import NetStack.Proofs.Invariant

namespace NetStack

open Tcp (Segment Reaction)
open Interface (Operation)

/-!
An operation on the link leaves the stack out of it.  Every other operation comes
to one handling, as a frame does that is polled.  What the stack sends on its own
account is a message or a packet, whose bytes it put together itself; only whoever
sends a frame or a raw transmission decides about bytes that the stack does not
look at.
-/

namespace Parcel

/-- An echo message starts with the header of a request; what else a parcel holds was
read. -/
def Whole : Parcel → Prop
  | .echo _ message => ∃ header, Icmp.Header.decode message = some header ∧
      header.isEchoRequest = true ∧ header.code = 0
  | _ => True

theorem whole_ofEcho (sender : Ipv4Address) (message : Bytes) : (ofEcho sender message).Whole := by
  unfold ofEcho
  cases decoded : Icmp.Header.decode message with
  | none => trivial
  | some header =>
      dsimp only
      split
      · trivial
      · next asks =>
        split
        · trivial
        · next coded => exact ⟨header, decoded, by simpa using asks, not_not.mp coded⟩

theorem whole_ofSegment (sender : Ipv4Address) (data : Bytes) : (ofSegment sender data).Whole := by
  unfold ofSegment
  split <;> trivial

theorem whole_ofDatagram (data : Bytes) : (ofDatagram data).Whole := by
  unfold ofDatagram
  split <;> trivial

theorem whole_ofResolution (data : Bytes) : (ofResolution data).Whole := by
  unfold ofResolution
  split
  · trivial
  · split
    · trivial
    · split <;> trivial

theorem whole_ofPacket (packet : Bytes) : (ofPacket packet).Whole := by
  unfold ofPacket ofProtocol
  split
  · trivial
  · dsimp only
    split
    · trivial
    · split
      · trivial
      · split
        · trivial
        · split
          · exact whole_ofSegment _ _
          · split
            · exact whole_ofDatagram _
            · split
              · exact whole_ofEcho _ _
              · trivial

/-- Whatever is read off a frame is whole. -/
theorem whole_ofFrame (room : Nat) (frame : Bytes) : (ofFrame room frame).Whole := by
  unfold ofFrame
  split
  · trivial
  · next header _ =>
    unfold ofPayload
    cases header.etherType with
    | ipv4 => exact whole_ofPacket _
    | arp => exact whole_ofResolution _
    | other value => trivial

end Parcel

/-! ## What can always be put together -/

/-- What fits into a buffer can be written into it. -/
theorem Bytes.exists_splice {buffer source : Bytes} {start : Nat}
    (fits : start + source.length ≤ buffer.length) :
    ∃ written, Bytes.splice buffer start source = .ok written ∧
      written.length = buffer.length := by
  have writes := Bytes.splice_eq_ok fits
  exact ⟨_, writes, Bytes.length_of_splice writes⟩

/-- A message with room for kind and checksum can be turned into its reply. -/
theorem Icmp.echoReply_eq_ok {message : Bytes} (long : Icmp.headerLength ≤ message.length) :
    ∃ reply, Icmp.echoReply message = .ok reply := by
  rw [Icmp.headerLength] at long
  obtain ⟨turned, turns, sized⟩ : ∃ turned, Bytes.splice message 0 [replyKind] = .ok turned ∧
      turned.length = message.length :=
    Bytes.exists_splice (show 0 + 1 ≤ message.length by omega)
  obtain ⟨cleared, clears, same⟩ : ∃ cleared, Bytes.splice turned 2 [0, 0] = .ok cleared ∧
      cleared.length = turned.length :=
    Bytes.exists_splice (show 2 + 2 ≤ turned.length by omega)
  obtain ⟨reply, stamps, -⟩ : ∃ reply,
      Bytes.splice cleared 2 (Wire.word16 (Checksum.checksum cleared)) = .ok reply ∧
        reply.length = cleared.length :=
    Bytes.exists_splice (show 2 + 2 ≤ cleared.length by omega)
  refine ⟨reply, ?_⟩
  unfold Icmp.echoReply
  simp only [turns, clears, bind, Except.bind]
  exact stamps

/-- What is received, if anything, is all that the adapter lacks afterwards. -/
theorem Nic.Carries.receive_any {nic : Nic} {traffic : Traffic} (carries : nic.Carries traffic)
    (buffer : Bytes) :
    ∃ received after waiting, (Nic.receive buffer).outcome nic = (.ok received, after) ∧
      after.Carries { traffic with waiting } := by
  cases waiting : traffic.waiting with
  | nil => exact ⟨_, _, _, carries.receive_none buffer waiting, carries⟩
  | cons oldest rest =>
      cases whole : oldest.whole with
      | false => exact ⟨_, _, _, carries.receive_fragment buffer waiting whole, carries⟩
      | true =>
          obtain ⟨after, receives, onAfter⟩ := carries.receive_whole buffer waiting whole
          exact ⟨_, after, rest, receives, onAfter⟩

namespace Interface

/-! ## What an operation comes to -/

/-- What is to be done about the frame in front, of whose payload at most `room`
bytes are kept. -/
def pollHandling (interface : Interface) (room : Nat) : Handling :=
  match interface.nic.front? with
  | none => .settles interface.memory
  | some frame => interface.handling (.ofFrame room frame)

/-- A frame is sent as it is, but from our hardware address and to the station
that its packet is for. -/
def frameHandling (interface : Interface) (header : Ethernet.Header) (payload : Bytes) :
    Handling :=
  if Ethernet.maxPayload < payload.length then
    .refuses (.refused (.frameTooLarge payload.length))
  else
    match ((frameDestination header payload).outcome interface).1 with
    | .error failure => .refuses failure
    | .ok destination =>
        let addressed := { header with destination, source := interface.config.mac }
        .answers (addressed.encode ++ payload) interface.memory interface.memory false

/-- A packet is sent, unless it is too long for a frame. -/
def payloadHandling (interface : Interface) (protocol : UInt8) (destination : Ipv4Address)
    (payload : Bytes) : Handling :=
  if Ipv4.maxPayload < payload.length then
    .refuses (.refused (.frameTooLarge payload.length))
  else
    interface.packetHandling protocol destination (.ok payload)

/-- A segment is sent on the channel that serves a port. -/
def channelHandling (interface : Interface) (port : UInt16) (flags : Tcp.Flags)
    (payload : Bytes) : Handling :=
  match interface.pool.find? port with
  | none => .refuses (.refused (.noChannel port))
  | some index =>
      let channel := interface.pool.get index
      interface.packetHandling Ipv4.Protocol.tcp channel.guest.address
        (.ok (segment interface.config channel flags payload))

/-- What an operation asks the stack to do.  What happens on the link, and what is
taken straight off the adapter, asks for nothing. -/
def duty (interface : Interface) : Operation → Option Handling
  | .poll => some (interface.pollHandling packetSize)
  | .pollFor timeout =>
      match ((Nic.awaitReceive timeout).outcome interface.nic).1 with
      | .ok () => some (interface.pollHandling packetSize)
      | .error failure => some (.refuses failure)
  | .listen =>
      if interface.nic.receiveReady then
        some (interface.pollHandling packetSize)
      else
        some (.refuses (.fault .endlessWait))
  | .receiveFrame out => some (interface.pollHandling out.length)
  | .receivePacket packet => some (interface.handling (.ofPacket packet))
  | .receiveSegment sender data => some (interface.handling (.ofSegment sender data))
  | .processSegment segment => some (interface.handling (.segment segment))
  | .resolve data => some (interface.handling (.ofResolution data))
  | .receiveEcho sender message => some (interface.handling (.ofEcho sender message))
  | .receiveDatagram datagram => some (interface.handling (.ofDatagram datagram))
  | .sendFrame header payload => some (interface.frameHandling header payload)
  | .sendPacket protocol destination payload =>
      some (interface.payloadHandling protocol destination payload)
  | .sendSegment port flags payload => some (interface.channelHandling port flags payload)
  | .sendAcknowledgment port flags => some (interface.channelHandling port (flags ||| .ack) [])
  | .sendDatagram data => some (interface.handling (.datagram data))
  | .askAddress target => some (interface.askHandling target)
  | .tellAddress question => some (interface.tellHandling question)
  | .transmit frame => some (.answers frame interface.memory interface.memory false)
  | _ => none

/-- The adapter as the stack leaves it before anything else is done: without the frame
in front, where the operation takes one, and later, where it waits for one. -/
def fetched (interface : Interface) : Operation → Nic
  | .poll => interface.taken
  | .receiveFrame _ => interface.taken
  | .pollFor timeout =>
      match (Nic.awaitReceive timeout).outcome interface.nic with
      | (.ok (), nic) => { interface with nic }.taken
      | (.error _, nic) => nic
  | .listen => if interface.nic.receiveReady then interface.taken else interface.nic
  | _ => interface.nic

/-! ## That much is done -/

variable {interface : Interface} {traffic : Traffic}

/-- Whether something was in front or not, nothing but frames that waited are gone
from the adapter. -/
theorem carries_polled (carries : interface.nic.Carries traffic) :
    ∃ waiting, interface.taken.Carries { traffic with waiting } := by
  obtain ⟨received, after, waiting, receives, onAfter⟩ := carries.receive_any (.zeros packetSize)
  refine ⟨waiting, ?_⟩
  rw [taken, receives]
  exact onAfter

/-- To poll is to do what is to be done about the frame in front, once it is
taken. -/
theorem outcome_pollInto_duty (carries : interface.nic.Carries traffic) (out : Bytes) :
    ((fun _ => ()) <$> pollInto out).outcome interface =
      (interface.pollHandling out.length).outcome { interface with nic := interface.taken } := by
  rw [Action.outcome_map, pollHandling, carries.front?]
  cases next : traffic.next? with
  | none =>
      rw [outcome_pollInto_idle carries next]
      rfl
  | some frame =>
      rw [outcome_pollInto_parcel carries next]
      dsimp only
      rcases (interface.handling (.ofFrame out.length frame)).outcome
        { interface with nic := interface.taken } with ⟨answer, last⟩
      cases answer <;> rfl

/-- On an adapter that carries the same traffic, the frame in front is the same. -/
theorem pollHandling_nic (carries : interface.nic.Carries traffic) {nic : Nic}
    (onNic : nic.Carries traffic) (room : Nat) :
    { interface with nic }.pollHandling room = interface.pollHandling room := by
  rw [pollHandling, pollHandling, carries.front?, onNic.front?]
  cases traffic.next? with
  | none => rfl
  | some frame => exact interface.handling_nic nic _

/-- What was fetched was waiting. -/
theorem carries_fetched (carries : interface.nic.Carries traffic) (operation : Operation) :
    ∃ waiting, (interface.fetched operation).Carries { traffic with waiting } := by
  cases operation with
  | poll => exact carries_polled carries
  | receiveFrame out => exact carries_polled carries
  | pollFor timeout =>
      rw [fetched]
      rcases waited : (Nic.awaitReceive timeout).outcome interface.nic with ⟨answer, nic⟩
      have onWaited : Nic.Carries { interface with nic }.nic traffic :=
        carries_waited carries waited
      cases answer with
      | ok value => exact carries_polled onWaited
      | error failure => exact ⟨_, onWaited⟩
  | listen =>
      rw [fetched]
      split
      · exact carries_polled carries
      · exact ⟨_, carries⟩
  | _ => exact ⟨_, carries⟩

/-- Polling after a wait that succeeded is polling. -/
theorem outcome_wait_duty (carries : interface.nic.Carries traffic) {wait : Action Nic Unit}
    {nic : Nic} (onLater : nic.Carries traffic)
    (succeeds : wait.outcome interface.nic = (.ok (), nic)) :
    ((fun _ => ()) <$> (do onNic wait; Interface.poll)).outcome interface =
      (interface.pollHandling packetSize).outcome
        { interface with nic := { interface with nic }.taken } := by
  let waited : Interface := { interface with nic }
  have onWaited : waited.nic.Carries traffic := onLater
  rw [outcome_wait_poll succeeds, outcome_pollInto_duty onWaited, Bytes.length_zeros,
    pollHandling_nic carries onLater]

/-- A wait that fails is all that is done. -/
theorem outcome_wait_failed {wait : Action Nic Unit} {nic : Nic} {failure : Failure}
    (fails : wait.outcome interface.nic = (.error failure, nic)) :
    ((fun _ => ()) <$> (do onNic wait; Interface.poll)).outcome interface =
      (.error failure, { interface with nic }) := by
  have waited : (onNic wait).outcome interface = (.error failure, { interface with nic }) := by
    rw [outcome_onNic, fails]
  rw [Action.outcome_map, Action.outcome_bind_of_error waited]
  rfl

theorem outcome_sendFrame_duty (interface : Interface) (header : Ethernet.Header)
    (payload : Bytes) :
    (sendFrame header payload).outcome interface =
      (interface.frameHandling header payload).outcome interface := by
  rw [frameHandling]
  split
  · next long =>
    unfold sendFrame
    rw [Action.outcome_emit_bind, if_pos long]
    rfl
  · next fits =>
    have stays : ((frameDestination header payload).outcome interface).2 = interface := by
      unfold frameDestination
      split
      · cases Ipv4.Header.decode payload with
        | none => rfl
        | some packet =>
            rw [Action.demand_some, pure_bind, Action.outcome_get_bind]
            cases interface.cache.lookup packet.destination <;> rfl
      · rfl
    rcases hop : (frameDestination header payload).outcome interface with ⟨answer, same⟩
    rw [hop] at stays
    dsimp only at stays
    rw [stays] at hop
    cases answer with
    | error failure =>
        unfold sendFrame
        rw [Action.outcome_emit_bind, if_neg fits, Action.outcome_bind_of_error hop]
        rfl
    | ok destination =>
        rw [outcome_sendFrame interface (Nat.not_lt.mp fits) hop]
        exact (Handling.outcome_answers_alike _ interface.memory interface).symm

theorem outcome_sendPacket_duty (interface : Interface) (protocol : UInt8)
    (destination : Ipv4Address) (payload : Bytes) :
    (sendPacket protocol destination payload).outcome interface =
      (interface.payloadHandling protocol destination payload).outcome interface := by
  rw [payloadHandling]
  split
  · next long =>
    unfold sendPacket
    rw [Action.outcome_emit_bind, if_pos long]
    rfl
  · next fits => exact interface.outcome_sendPacket_handling (Nat.not_lt.mp fits)

theorem outcome_sendSegment (interface : Interface) (port : UInt16) (flags : Tcp.Flags)
    (payload : Bytes) :
    (sendSegment port flags payload).outcome interface =
      (interface.channelHandling port flags payload).outcome interface := by
  unfold sendSegment channelHandling
  rw [Action.outcome_get_bind]
  cases interface.pool.find? port with
  | none => rfl
  | some index =>
      rw [Action.demand_some, pure_bind, outcome_sendOn]
      exact (Handling.outcome_answers_alike _ interface.counted interface).symm

/-- An operation does what it asks for, once it has fetched what it takes. -/
theorem outcome_fetched (carries : interface.nic.Carries traffic) {operation : Operation}
    {handling : Handling} (due : interface.duty operation = some handling) :
    (perform operation).outcome interface =
      handling.outcome { interface with nic := interface.fetched operation } := by
  cases operation with
  | poll =>
      obtain rfl := Option.some.inj due
      rw [← Bytes.length_zeros packetSize]
      exact outcome_pollInto_duty carries (.zeros packetSize)
  | receiveFrame out =>
      obtain rfl := Option.some.inj due
      exact outcome_pollInto_duty carries out
  | pollFor timeout =>
      rw [duty] at due
      rw [fetched]
      rcases waited : (Nic.awaitReceive timeout).outcome interface.nic with ⟨answer, nic⟩
      rw [waited] at due
      cases answer with
      | ok value =>
          obtain rfl := Option.some.inj due
          exact outcome_wait_duty carries (carries_waited carries waited) waited
      | error failure =>
          obtain rfl := Option.some.inj due
          exact outcome_wait_failed waited
  | listen =>
      have begun : Nic.listen.outcome interface.nic =
          (if interface.nic.receiveReady then .ok () else .error (.fault .endlessWait),
            interface.nic) := by
        unfold Nic.listen
        rw [Action.outcome_get_bind]
        cases interface.nic.receiveReady <;> rfl
      rw [duty] at due
      rw [fetched]
      cases ready : interface.nic.receiveReady with
      | true =>
          rw [ready] at begun due
          obtain rfl := Option.some.inj due
          exact outcome_wait_duty carries carries begun
      | false =>
          rw [ready] at begun due
          obtain rfl := Option.some.inj due
          exact outcome_wait_failed begun
  | receivePacket packet =>
      obtain rfl := Option.some.inj due
      exact outcome_receivePacket carries packet
  | receiveSegment sender data =>
      obtain rfl := Option.some.inj due
      exact outcome_receiveSegment carries sender data
  | processSegment segment =>
      obtain rfl := Option.some.inj due
      exact outcome_processSegment_handling carries segment
  | resolve data =>
      obtain rfl := Option.some.inj due
      exact interface.outcome_resolve data
  | receiveEcho sender message =>
      obtain rfl := Option.some.inj due
      exact interface.outcome_receiveEcho sender message
  | receiveDatagram datagram =>
      obtain rfl := Option.some.inj due
      exact interface.outcome_receiveDatagram datagram
  | sendFrame header payload =>
      obtain rfl := Option.some.inj due
      exact interface.outcome_sendFrame_duty header payload
  | sendPacket protocol destination payload =>
      obtain rfl := Option.some.inj due
      exact interface.outcome_sendPacket_duty protocol destination payload
  | sendSegment port flags payload =>
      obtain rfl := Option.some.inj due
      exact interface.outcome_sendSegment port flags payload
  | sendAcknowledgment port flags =>
      obtain rfl := Option.some.inj due
      exact interface.outcome_sendSegment port (flags ||| Tcp.Flags.ack) []
  | sendDatagram data =>
      obtain rfl := Option.some.inj due
      exact interface.outcome_sendDatagram data
  | askAddress target =>
      obtain rfl := Option.some.inj due
      exact interface.outcome_askAddress target
  | tellAddress question =>
      obtain rfl := Option.some.inj due
      exact interface.outcome_tellAddress question
  | transmit frame =>
      obtain rfl := Option.some.inj due
      exact (Handling.outcome_answers_alike _ interface.memory interface).symm
  | _ => cases due

/-- An operation does what it asks for, on an adapter that lacks no more than frames
that waited. -/
theorem outcome_duty (carries : interface.nic.Carries traffic) {operation : Operation}
    {handling : Handling} (due : interface.duty operation = some handling) :
    ∃ nic waiting, nic.Carries { traffic with waiting } ∧
      (perform operation).outcome interface = handling.outcome { interface with nic } := by
  obtain ⟨waiting, onFetched⟩ := carries_fetched carries operation
  exact ⟨interface.fetched operation, waiting, onFetched, outcome_fetched carries due⟩

/-- An operation that asks for nothing succeeds, changes nothing but the adapter, and
lets no further frame leave the stack. -/
theorem outcome_no_duty (carries : interface.nic.Carries traffic) {operation : Operation}
    (none : interface.duty operation = none) :
    ∃ nic later, nic.Carries later ∧ later.outbound <:+ traffic.outbound ∧
      (perform operation).outcome interface = (.ok (), { interface with nic }) := by
  have onLink {α : Type} {action : Action Nic α} {value : α} {nic : Nic}
      (done : action.outcome interface.nic = (.ok value, nic)) :
      ((fun _ => ()) <$> onNic action).outcome interface = (.ok (), { interface with nic }) := by
    rw [Action.outcome_map, outcome_onNic, done]
    rfl
  have delivered (frame : Bytes) (whole : Bool) : ∃ nic later value, nic.Carries later ∧
      later.outbound = traffic.outbound ∧
      (Nic.onSoftware false (Rig.deliver frame whole)).outcome interface.nic =
        (.ok value, nic) := by
    rcases carries.waiting_cases with room | full
    · obtain ⟨nic, arrives, onNic⟩ := carries.deliver frame whole room
      exact ⟨nic, _, true, onNic, rfl, arrives⟩
    · exact ⟨_, _, false, carries, rfl, carries.deliver_full frame whole full⟩
  cases operation with
  | inject frame =>
      obtain ⟨nic, later, value, onLater, same, arrives⟩ := delivered frame true
      exact ⟨nic, later, onLater, same ▸ List.suffix_rfl, onLink arrives⟩
  | injectFragment frame =>
      obtain ⟨nic, later, value, onLater, same, arrives⟩ := delivered frame false
      exact ⟨nic, later, onLater, same ▸ List.suffix_rfl, onLink arrives⟩
  | completeTransmits =>
      obtain ⟨nic, completes, onNic⟩ := carries.completeTransmits
      have same : traffic.flush.outbound = traffic.outbound := Traffic.outbound_flush traffic
      refine ⟨nic, _, onNic, same ▸ List.suffix_rfl, ?_⟩
      rw [perform, outcome_onNic, completes]
  | takeSent =>
      obtain ⟨nic, takes, onNic⟩ := carries.takeSent
      refine ⟨nic, _, onNic, ?_, onLink takes⟩
      cases taken : traffic.sent with
      | nil => simp [Traffic.outbound, taken]
      | cons oldest rest => exact ⟨[oldest], by simp [Traffic.outbound, taken]⟩
  | drainSent =>
      obtain ⟨nic, drains, onNic⟩ := carries.drainSent
      exact ⟨nic, _, onNic, List.suffix_append _ _, onLink drains⟩
  | receive buffer =>
      obtain ⟨received, nic, waiting, receives, onAfter⟩ := carries.receive_any buffer
      exact ⟨nic, _, onAfter, List.suffix_rfl, onLink receives⟩
  | pollFor timeout =>
      rw [duty] at none
      split at none <;> cases none
  | listen =>
      rw [duty] at none
      split at none <;> cases none
  | _ => cases none

/-! ## What the stack sends of its own accord -/

/-- Whether an operation hands the stack the bytes of a whole frame. -/
def Operation.dictates : Operation → Bool
  | .sendFrame _ _ => true
  | .transmit _ => true
  | _ => false

/-- Whether an operation waits for a frame to arrive. -/
def Operation.waits : Operation → Bool
  | .pollFor _ => true
  | .listen => true
  | _ => false

/-- The ways in which the stack handles what it put together itself.  It drops it for
a cause, takes note of it, sends a message, or sends a packet, and only a packet
takes a number. -/
inductive Issues (interface : Interface) : Handling → Prop where
  | refuses (cause : StackError) : Issues interface (.refuses (.refused cause))
  | settles {next : Memory} (unnumbered : next.identification = interface.identification) :
      Issues interface (.settles next)
  | message (destination : MacAddress) (message : Arp.Message) {next : Memory}
      (unnumbered : next.identification = interface.identification) :
      Issues interface (.answers (interface.messageFrame destination message) next next false)
  | packet (protocol : UInt8) (destination : Ipv4Address) {payload : Bytes}
      {sent unsent : Memory} {excused : Bool} (fits : payload.length ≤ Ipv4.maxPayload)
      (known : sent.cache = interface.cache)
      (numbered : sent.identification = interface.identification + 1)
      (spent : unsent.identification = interface.identification + 1) :
      Issues interface
        (.answers (interface.packetFrame protocol destination payload) sent unsent excused)

theorem issues_packetHandling (interface : Interface) (protocol : UInt8)
    (destination : Ipv4Address) {payload : Bytes} (fits : payload.length ≤ Ipv4.maxPayload) :
    interface.Issues (interface.packetHandling protocol destination (.ok payload)) :=
  .packet protocol destination fits rfl rfl rfl

theorem issues_channelHandling (interface : Interface) (port : UInt16) (flags : Tcp.Flags)
    (payload : Bytes) : interface.Issues (interface.channelHandling port flags payload) := by
  unfold channelHandling
  cases interface.pool.find? port with
  | none => exact .refuses _
  | some index => exact interface.issues_packetHandling _ _ (length_segment_le _ _ _ _)

variable {automatic : Bool}

/-- Whatever a whole parcel asks for, the stack puts it together itself. -/
theorem Sound.issues (sound : interface.Sound automatic) {parcel : Parcel}
    (whole : parcel.Whole) : interface.Issues (interface.handling parcel) := by
  have deals := interface.deals parcel
  generalize interface.handling parcel = handling at deals ⊢
  cases deals with
  | drops cause => exact .refuses cause
  | passes => exact .settles rfl
  | tells asks => exact .message _ _ rfl
  | hears other => exact .settles rfl
  | asks unknown => exact .message _ _ rfl
  | @echoes sender message station known =>
      obtain ⟨header, decoded, -⟩ := whole
      have long : Icmp.headerLength ≤ (message.take Ipv4.maxPayload).length := by
        rw [List.length_take]
        exact Nat.le_min.mpr ⟨by decide, Icmp.Header.length_of_decode decoded⟩
      obtain ⟨reply, replies⟩ := Icmp.echoReply_eq_ok long
      rw [replies]
      apply issues_packetHandling
      rw [Icmp.length_echoReply replies]
      exact List.length_take_le _ _
  | forwards payload =>
      have made := hostDatagram_eq interface.config payload
      rw [made]
      exact interface.issues_packetHandling _ _ (length_hostDatagram made)
  | unserved closed => exact .refuses _
  | @rejects segment index failure serves fails =>
      obtain ⟨cause, rfl⟩ := (sound.channels index).react_error fails
      exact .refuses cause
  | @reacts segment index reaction serves reacts =>
      rw [reactionHandling]
      cases reaction.answer? with
      | none => exact .settles rfl
      | some answer => exact .packet _ _ (length_segment_le _ _ _ _) rfl rfl rfl

theorem Sound.issues_pollHandling (sound : interface.Sound automatic) (room : Nat) :
    interface.Issues (interface.pollHandling room) := by
  unfold pollHandling
  cases interface.nic.front? with
  | none => exact .settles rfl
  | some frame => exact sound.issues (Parcel.whole_ofFrame room frame)

/-- While a frame waits, a wait for one is over at once. -/
theorem awaitReceive_ready {nic : Nic} (timeout : Duration) (ready : nic.receiveReady = true) :
    ((Nic.awaitReceive timeout).outcome nic).1 = .ok () := by
  obtain ⟨fuel, counts⟩ : ∃ fuel, counterPeriod = fuel + 1 :=
    Nat.exists_eq_succ_of_ne_zero (by decide)
  unfold Action.outcome Nic.awaitReceive Nic.await StepClock.wait
  rw [counts]
  simp only [StepClock.spin, ready, if_true]

/-- So does every operation that leaves the bytes of its frames to the stack, unless
it waits in vain. -/
theorem Sound.issues_duty (sound : interface.Sound automatic) {operation : Operation}
    {handling : Handling} (due : interface.duty operation = some handling)
    (own : operation.dictates = false) :
    interface.Issues handling ∨
      operation.waits = true ∧ interface.nic.receiveReady = false ∧
        ∃ failure, handling = .refuses failure := by
  cases operation with
  | pollFor timeout =>
      rw [duty] at due
      cases answer : ((Nic.awaitReceive timeout).outcome interface.nic).1 with
      | ok value =>
          rw [answer] at due
          obtain rfl := Option.some.inj due
          exact .inl (sound.issues_pollHandling _)
      | error failure =>
          rw [answer] at due
          obtain rfl := Option.some.inj due
          refine .inr ⟨rfl, ?_, failure, rfl⟩
          cases ready : interface.nic.receiveReady with
          | false => rfl
          | true =>
              rw [awaitReceive_ready timeout ready] at answer
              cases answer
  | listen =>
      rw [duty] at due
      cases ready : interface.nic.receiveReady with
      | true =>
          rw [ready, if_pos rfl] at due
          obtain rfl := Option.some.inj due
          exact .inl (sound.issues_pollHandling _)
      | false =>
          rw [ready, if_neg Bool.false_ne_true] at due
          obtain rfl := Option.some.inj due
          exact .inr ⟨rfl, rfl, _, rfl⟩
  | poll =>
      obtain rfl := Option.some.inj due
      exact .inl (sound.issues_pollHandling _)
  | receiveFrame out =>
      obtain rfl := Option.some.inj due
      exact .inl (sound.issues_pollHandling _)
  | receivePacket packet =>
      obtain rfl := Option.some.inj due
      exact .inl (sound.issues (Parcel.whole_ofPacket _))
  | receiveSegment sender data =>
      obtain rfl := Option.some.inj due
      exact .inl (sound.issues (Parcel.whole_ofSegment _ _))
  | processSegment segment =>
      obtain rfl := Option.some.inj due
      have whole : Parcel.Whole (.segment segment) := trivial
      exact .inl (sound.issues whole)
  | resolve data =>
      obtain rfl := Option.some.inj due
      exact .inl (sound.issues (Parcel.whole_ofResolution _))
  | receiveEcho sender message =>
      obtain rfl := Option.some.inj due
      exact .inl (sound.issues (Parcel.whole_ofEcho _ _))
  | receiveDatagram datagram =>
      obtain rfl := Option.some.inj due
      exact .inl (sound.issues (Parcel.whole_ofDatagram _))
  | sendPacket protocol destination payload =>
      obtain rfl := Option.some.inj due
      left
      unfold payloadHandling
      split
      · exact .refuses _
      · next fits => exact interface.issues_packetHandling _ _ (Nat.not_lt.mp fits)
  | sendSegment port flags payload =>
      obtain rfl := Option.some.inj due
      exact .inl (interface.issues_channelHandling _ _ _)
  | sendAcknowledgment port flags =>
      obtain rfl := Option.some.inj due
      exact .inl (interface.issues_channelHandling _ _ _)
  | sendDatagram data =>
      obtain rfl := Option.some.inj due
      have whole : Parcel.Whole (.datagram data) := trivial
      exact .inl (sound.issues whole)
  | askAddress target =>
      obtain rfl := Option.some.inj due
      exact .inl (.message _ _ rfl)
  | tellAddress question =>
      obtain rfl := Option.some.inj due
      exact .inl (.message _ _ rfl)
  | sendFrame header payload => cases own
  | transmit frame => cases own
  | _ => cases due

end Interface

end NetStack
