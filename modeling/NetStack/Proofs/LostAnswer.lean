/-
Module: NetStack.Proofs.LostAnswer
Purpose: What becomes of a connection when a control answer finds the transmit
  ring full, and the peer sends its segment once more.
Main exports:
  Tcp.Channel.Reacts.repeated, Interface.lost_answer_refused,
  Setup.lost_answer_stays_lost, Setup.lost_opening_not_recovered
-/
import NetStack.Proofs.Dialogue

namespace NetStack

open Tcp (Segment Reaction)
open Interface (Operation)

/-!
A control answer that finds no room is let go, and the channel moves on as if it
had been sent.  The peer, which never sees the answer, sends its segment again.
But the channel then waits for the next segment of the peer, and refuses the
one before it.
-/

namespace Tcp.Channel

variable {channel fresh : Channel} {segment : Segment} {reaction : Reaction}

/-- A channel that was just opened refuses a bare SYN. -/
theorem react_opened (opened : channel.state = .synReceived)
    (bare : segment.header.flags.contains .ack = false) :
    channel.react fresh segment = .error (.refused (.missingFlag .synReceived .ack)) := by
  unfold react
  rw [opened]
  dsimp only [establish, expect]
  rw [bare, opened]
  rfl

/-- A channel that listens refuses a segment that acknowledges something. -/
theorem react_closed (closed : channel.state = .listen)
    (acknowledges : segment.header.flags.contains .ack = true) :
    channel.react fresh segment = .error (.refused (.missingFlag .listen .syn)) := by
  unfold react
  rw [closed]
  dsimp only [accept]
  rw [acknowledges, closed, Bool.or_true]
  rfl

/-- Where a connection begins or ends, a segment that moves the channel is not
what the channel waits for next. -/
theorem Reacts.repeated (how : Reacts channel segment reaction) (fresh : Channel) (room : Bool)
    (waiting : channel.state = .listen ∨ channel.state = .closeWait)
    (moves : (reaction.channelAfter room).state ≠ channel.state) :
    (reaction.channelAfter room).state = .synReceived ∧
        (reaction.channelAfter room).react fresh segment =
          .error (.refused (.missingFlag .synReceived .ack)) ∨
      (reaction.channelAfter room).state = .listen ∧
        (reaction.channelAfter room).react fresh segment =
          .error (.refused (.missingFlag .listen .syn)) := by
  cases how with
  | opens listening syn bare =>
      left
      have opened : (Reaction.channelAfter (.control (channel.greeted segment) .syn
          { channel.greeted segment with
            sequence := segment.header.sequence + 1
            state := .synReceived }
          [.channelOpened segment.header.destinationPort
            ⟨segment.sender, segment.header.sourcePort⟩]) room).state = .synReceived := by
        cases room <;> rfl
      exact ⟨opened, react_opened opened bare⟩
  | closes closing acknowledges finished expected =>
      right
      have closed : (Reaction.channelAfter
          (.control { channel with acknowledgment := channel.acknowledgment + 1 } .empty
            { channel with acknowledgment := channel.acknowledgment + 1, state := .listen }
            [.channelClosed segment.header.destinationPort]) room).state = .listen := by
        cases room <;> rfl
      exact ⟨closed, react_closed closed acknowledges⟩
  | awaits closing => exact absurd rfl moves
  | establishes opening => rw [opening] at waiting; rcases waiting with h | h <;> cases h
  | notes established => rw [established] at waiting; rcases waiting with h | h <;> cases h
  | takes established => rw [established] at waiting; rcases waiting with h | h <;> cases h
  | answers established => rw [established] at waiting; rcases waiting with h | h <;> cases h

end Tcp.Channel

namespace Interface

variable {interface : Interface} {traffic : Traffic} {frame : Bytes} {segment : Segment}

/-- A frame that arrives while no other waits is processed by the next poll. -/
theorem delivered (carries : interface.nic.Carries traffic) (idle : traffic.waiting = [])
    (fits : frame.length ≤ packetSize)
    (carried : Segment.ofFrame? packetSize frame = some segment) :
    ∃ nic, nic.Carries traffic ∧
      Operation.poll.result ((Operation.inject frame).next interface) =
        ((processSegment segment).outcome { interface with nic }).1 ∧
      interface.after [.inject frame, .poll] =
        ((processSegment segment).outcome { interface with nic }).2 := by
  obtain ⟨arrived, nic, injected, carriesOn, polled⟩ := poll_injected carries idle fits carried
  let polling : Interface := { interface with nic := arrived }
  have arrives : (onNic (Nic.inject frame)).outcome interface = (.ok true, polling) := by
    rw [outcome_onNic, injected]
  have reached : (Operation.inject frame).next interface = polling := by
    rw [Operation.next, perform, Action.outcome_map, arrives]
  refine ⟨nic, carriesOn, ?_, after_delivery arrives polled⟩
  rw [reached, Operation.result, perform, Action.outcome_map, polled]
  dsimp only
  cases ((processSegment segment).outcome { interface with nic }).1 <;> rfl

/-- A delivered segment that its channel refuses brings no answer, and moves no
channel. -/
theorem delivery_refused {automatic : Bool} {index : Fin Tcp.poolSize} {failure : Failure}
    (sound : interface.Sound automatic) (idle : interface.nic.receiveReady = false)
    (fits : frame.length ≤ packetSize)
    (carried : Segment.ofFrame? packetSize frame = some segment)
    (addressed : segment.header.destinationPort = Tcp.Pool.localPort index)
    (fails : (interface.pool.get index).react (interface.pool.fresh index) segment =
      .error failure) :
    let last := interface.after [.inject frame, .poll]
    Operation.poll.result ((Operation.inject frame).next interface) = .error failure ∧
      last.nic.outbox = interface.nic.outbox ∧ last.pool = interface.pool := by
  intro last
  obtain ⟨traffic, carries, -, empty⟩ := sound.at_rest idle
  have serves := (Tcp.Pool.find?_eq_some_iff sound.bound).mpr addressed.symm
  obtain ⟨nic, onNic, answered, becomes⟩ := delivered carries empty fits carried
  let polled : Interface := { interface with nic }
  have refused : (processSegment segment).outcome polled = (.error failure, polled) :=
    processSegment_refused serves fails
  rw [refused] at answered becomes
  have unmoved : last = polled := becomes
  refine ⟨answered, ?_, ?_⟩
  · rw [unmoved, carries.outbox]
    exact onNic.outbox
  · rw [unmoved]

/-- A delivered segment that its channel reacts to moves the channel, and is
answered if the transmit ring has room. -/
theorem delivery_reacts {automatic : Bool} {index : Fin Tcp.poolSize} {reaction : Reaction}
    (sound : interface.Sound automatic) (idle : interface.nic.receiveReady = false)
    (fits : frame.length ≤ packetSize)
    (carried : Segment.ofFrame? packetSize frame = some segment)
    (addressed : segment.header.destinationPort = Tcp.Pool.localPort index)
    (how : Tcp.Channel.Reacts (interface.pool.get index) segment reaction) :
    let room := interface.nic.transmitReady
    let last := interface.after [.inject frame, .poll]
    Operation.poll.result ((Operation.inject frame).next interface) = reaction.verdict room ∧
      last.pool.get index = reaction.channelAfter room ∧ last.nic.receiveReady = false ∧
      (room = false → last.nic.outbox = interface.nic.outbox) := by
  intro room last
  obtain ⟨traffic, carries, -, empty⟩ := sound.at_rest idle
  have ready : room = traffic.hasRoom := carries.transmitReady
  have serves := (Tcp.Pool.find?_eq_some_iff sound.bound).mpr addressed.symm
  obtain ⟨nic, onNic, answered, becomes⟩ := delivered carries empty fits carried
  let polled : Interface := { interface with nic }
  have onPolled : polled.nic.Carries traffic := onNic
  obtain ⟨after, identification, processed, onAfter⟩ :=
    processSegment_reacts onPolled serves how.react_eq
  rw [processed] at answered becomes
  have settled : last = _ := becomes
  rw [ready, settled]
  refine ⟨answered, Tcp.Pool.get_set_same _ _ _, ?_, ?_⟩
  · rw [onAfter.receiveReady, waiting_answered, empty]
    rfl
  · intro full
    rw [onAfter.outbox, carries.outbox, answered_full polled reaction full]

/-- Completing the transmissions empties the ring, and that is all. -/
theorem completeTransmits_frees {automatic : Bool} (sound : interface.Sound automatic) :
    let freed := interface.after [.completeTransmits]
    freed.nic.transmitReady = true ∧ freed.nic.receiveReady = interface.nic.receiveReady ∧
      freed.nic.outbox = interface.nic.outbox ∧ freed.pool = interface.pool := by
  intro freed
  obtain ⟨traffic, carries, -⟩ := sound.wired
  obtain ⟨nic, completed, onNic⟩ := carries.completeTransmits
  have next : Operation.completeTransmits.next interface = { interface with nic } := by
    rw [Operation.next, perform, outcome_onNic, completed]
  have becomes : freed = { interface with nic } := next
  rw [becomes]
  refine ⟨?_, ?_, ?_, rfl⟩
  · rw [onNic.transmitReady]
    rfl
  · rw [onNic.receiveReady, carries.receiveReady]
    rfl
  · rw [onNic.outbox, carries.outbox, Traffic.outbound_flush]

/-- After a control answer was lost, sending the same segment again brings no
answer, not even once the ring is empty. -/
theorem lost_answer_refused {automatic : Bool} {index : Fin Tcp.poolSize}
    (sound : interface.Sound automatic) (full : interface.nic.transmitReady = false)
    (idle : interface.nic.receiveReady = false) (fits : frame.length ≤ packetSize)
    (carried : Segment.ofFrame? packetSize frame = some segment)
    (addressed : segment.header.destinationPort = Tcp.Pool.localPort index)
    (waiting : (interface.pool.get index).state = .listen ∨
      (interface.pool.get index).state = .closeWait)
    (accepted : Operation.poll.result ((Operation.inject frame).next interface) = .ok ())
    (moves : ((interface.after [.inject frame, .poll]).pool.get index).state ≠
      (interface.pool.get index).state) :
    let first := interface.after [.inject frame, .poll]
    let freed := first.after [.completeTransmits]
    let again := freed.after [.inject frame, .poll]
    first.nic.outbox = interface.nic.outbox ∧ freed.nic.transmitReady = true ∧
      ((first.pool.get index).state = .synReceived ∧
          Operation.poll.result ((Operation.inject frame).next freed) =
            .error (.refused (.missingFlag .synReceived .ack)) ∨
        (first.pool.get index).state = .listen ∧
          Operation.poll.result ((Operation.inject frame).next freed) =
            .error (.refused (.missingFlag .listen .syn))) ∧
      again.nic.outbox = interface.nic.outbox ∧ again.pool = first.pool := by
  intro first freed again
  cases reacts : (interface.pool.get index).react (interface.pool.fresh index) segment with
  | error failure =>
      obtain ⟨refused, -⟩ := delivery_refused sound idle fits carried addressed reacts
      rw [accepted] at refused
      cases refused
  | ok reaction =>
      have how := (Tcp.Channel.react_eq_ok_iff (sound.channels index).onLoop).mp reacts
      obtain ⟨-, stands, still, silent⟩ :=
        delivery_reacts sound idle fits carried addressed how
      rw [full] at stands silent
      have firstSound : first.Sound automatic := (sound.next (.inject frame)).next .poll
      obtain ⟨room, restored, unsent, same⟩ := completeTransmits_frees firstSound
      have freedSound : freed.Sound automatic := firstSound.next .completeTransmits
      have freedIdle : freed.nic.receiveReady = false := restored.trans still
      -- What the channel became waits for the next segment, and not for this one.
      have repeated := how.repeated (freed.pool.fresh index) false waiting
        (by rw [← stands]; exact moves)
      rw [← stands] at repeated
      rcases repeated with ⟨state, fails⟩ | ⟨state, fails⟩
      · obtain ⟨answer, silentAgain, unmoved⟩ :=
          delivery_refused freedSound freedIdle fits carried addressed (by rw [same]; exact fails)
        exact ⟨silent rfl, room, .inl ⟨state, answer⟩,
          silentAgain.trans (unsent.trans (silent rfl)), unmoved.trans same⟩
      · obtain ⟨answer, silentAgain, unmoved⟩ :=
          delivery_refused freedSound freedIdle fits carried addressed (by rw [same]; exact fails)
        exact ⟨silent rfl, room, .inr ⟨state, answer⟩,
          silentAgain.trans (unsent.trans (silent rfl)), unmoved.trans same⟩

/-- A SYN opens a listening channel also when there is no room for the answer. -/
theorem opens_without_room {automatic : Bool} {index : Fin Tcp.poolSize}
    (sound : interface.Sound automatic) (idle : interface.nic.receiveReady = false)
    (fits : frame.length ≤ packetSize)
    (carried : Segment.ofFrame? packetSize frame = some segment)
    (addressed : segment.header.destinationPort = Tcp.Pool.localPort index)
    (listening : (interface.pool.get index).state = .listen)
    (syn : segment.header.flags.contains .syn = true)
    (bare : segment.header.flags.contains .ack = false) :
    Operation.poll.result ((Operation.inject frame).next interface) = .ok () ∧
      ((interface.after [.inject frame, .poll]).pool.get index).state = .synReceived := by
  have how := Tcp.Channel.Reacts.opens listening syn bare
  obtain ⟨answered, stands, -⟩ := delivery_reacts sound idle fits carried addressed how
  rw [answered, stands]
  constructor
  · cases interface.nic.transmitReady <;> rfl
  · cases interface.nic.transmitReady <;> rfl

end Interface

namespace Setup

/-! ## A full ring -/

/-- What the stack queues on a stalled adapter stays queued. -/
theorem carries_fill (setup : Setup) (stalled : setup.automatic = false) (frame : Bytes)
    {count : Nat} (fits : count ≤ ringSize) :
    let filled := setup.start.after (List.replicate count (.transmit frame))
    filled.nic.Carries {
        automatic := false
        waiting := []
        pending := List.replicate count (frame.take packetSize)
        sent := [] } ∧
      filled.pool = setup.start.pool := by
  induction count with
  | zero =>
      have attached := setup.carries_start
      rw [stalled] at attached
      exact ⟨attached, rfl⟩
  | succ count inductiveHypothesis =>
      obtain ⟨carries, same⟩ := inductiveHypothesis (by omega)
      have room : (List.replicate count (frame.take packetSize)).length < ringSize := by
        rw [List.length_replicate]
        omega
      obtain ⟨nic, queued, onNic⟩ := carries.transmit frame room
      have becomes : setup.start.after (List.replicate (count + 1) (.transmit frame)) =
          { setup.start.after (List.replicate count (.transmit frame)) with nic } := by
        rw [List.replicate_succ', Interface.after_concat, Operation.next, Interface.perform,
          Interface.outcome_onNic, queued]
      rw [becomes]
      refine ⟨?_, same⟩
      rw [List.replicate_succ']
      exact onNic

/-- A stalled adapter whose transmit ring was filled up. -/
def stuffed : List Operation :=
  List.replicate ringSize (.transmit [0])

/-- The frame in which a client opens a connection to the web port. -/
def openingFrame : Bytes :=
  Tcp.Message.frame
    { source := ⟨⟨10, 0, 2, 2⟩, 51000⟩
      destination := ⟨⟨10, 0, 2, 15⟩, 80⟩
      flags := .syn
      sequence := 1000
      acknowledgment := 0
      payload := [] }
    (Setup.default false).start

theorem length_openingFrame_le : openingFrame.length ≤ packetSize :=
  Tcp.Message.length_frame_le _ _

/-- The opening reaches a listening channel behind a full ring. -/
theorem opening_at_stuffed :
    let full := (Setup.default false).start.after stuffed
    full.nic.transmitReady = false ∧ full.nic.receiveReady = false ∧
      (full.pool.get Tcp.Pool.web).state = .listen ∧
      ∃ segment, Segment.ofFrame? packetSize openingFrame = some segment ∧
        segment.header.destinationPort = Tcp.Pool.localPort Tcp.Pool.web ∧
        segment.header.flags = .syn := by
  intro full
  obtain ⟨carries, pool⟩ :=
    carries_fill (Setup.default false) rfl [0] (Nat.le_refl ringSize)
  refine ⟨carries.transmitReady, carries.receiveReady, ?_, ?_⟩
  · have untouched : full.pool = (Setup.default false).start.pool := pool
    rw [untouched, pool_start, Tcp.Pool.get_listening]
    rfl
  · have read : Tcp.Message.ofFrame? openingFrame = some _ :=
      Tcp.Message.ofFrame?_frame (Setup.default false).start (Nat.zero_le _)
    obtain ⟨segment, carried, -, port, flags, -⟩ := Tcp.Message.segment_of_ofFrame? read
    exact ⟨segment, carried, port.symm, flags.symm⟩

/-- There the opening is accepted. -/
theorem opening_accepted_at_stuffed :
    let full := (Setup.default false).start.after stuffed
    Operation.poll.result ((Operation.inject openingFrame).next full) = .ok () ∧
      ((full.after [.inject openingFrame, .poll]).pool.get Tcp.Pool.web).state = .synReceived := by
  intro full
  obtain ⟨-, idle, listening, segment, carried, addressed, flags⟩ := opening_at_stuffed
  exact Interface.opens_without_room ((Setup.default false).sound_after stuffed).1 idle
    length_openingFrame_le carried addressed listening (by rw [flags]; decide)
    (by rw [flags]; decide)

/-! ## The lost answer -/

/-- The promise that the peer's retransmission recovers a lost control answer is
never kept.  Wherever a run has led, when the transmit ring is full and no frame
waits, a segment that opens or closes a connection and loses its answer is
refused when it comes again, and nothing is sent for it, although the ring is
empty by then.  (A ring is never full on a running adapter.) -/
theorem lost_answer_stays_lost (setup : Setup) (operations : List Operation)
    (index : Fin Tcp.poolSize) (frame : Bytes) (segment : Segment)
    (full : (setup.start.after operations).nic.transmitReady = false)
    (idle : (setup.start.after operations).nic.receiveReady = false)
    (fits : frame.length ≤ packetSize)
    (carried : Segment.ofFrame? packetSize frame = some segment)
    (addressed : segment.header.destinationPort = Tcp.Pool.localPort index)
    (waiting : ((setup.start.after operations).pool.get index).state = .listen ∨
      ((setup.start.after operations).pool.get index).state = .closeWait)
    (accepted : Operation.poll.result
      ((Operation.inject frame).next (setup.start.after operations)) = .ok ())
    (moves : (((setup.start.after operations).after [.inject frame, .poll]).pool.get index).state ≠
      ((setup.start.after operations).pool.get index).state) :
    let reached := setup.start.after operations
    let first := reached.after [.inject frame, .poll]
    let freed := first.after [.completeTransmits]
    let again := freed.after [.inject frame, .poll]
    first.nic.outbox = reached.nic.outbox ∧ freed.nic.transmitReady = true ∧
      ((first.pool.get index).state = .synReceived ∧
          Operation.poll.result ((Operation.inject frame).next freed) =
            .error (.refused (.missingFlag .synReceived .ack)) ∨
        (first.pool.get index).state = .listen ∧
          Operation.poll.result ((Operation.inject frame).next freed) =
            .error (.refused (.missingFlag .listen .syn))) ∧
      again.nic.outbox = reached.nic.outbox ∧ again.pool = first.pool :=
  Interface.lost_answer_refused (setup.sound_after operations).1 full idle fits carried addressed
    waiting accepted moves

theorem lost_answer_stays_lost_at_stuffed :
    let full := (Setup.default false).start.after stuffed
    let freed := (full.after [.inject openingFrame, .poll]).after [.completeTransmits]
    full.nic.transmitReady = false ∧
      (freed.after [.inject openingFrame, .poll]).nic.outbox = full.nic.outbox := by
  intro full freed
  obtain ⟨busy, idle, listening, segment, carried, addressed, -⟩ := opening_at_stuffed
  obtain ⟨accepted, opened⟩ := opening_accepted_at_stuffed
  have moves : ((full.after [.inject openingFrame, .poll]).pool.get Tcp.Pool.web).state ≠
      (full.pool.get Tcp.Pool.web).state := by
    rw [opened, listening]
    decide
  obtain ⟨-, -, -, silentAgain, -⟩ :=
    lost_answer_stays_lost (Setup.default false) stuffed Tcp.Pool.web openingFrame segment busy
      idle length_openingFrame_le carried addressed (.inl listening) accepted moves
  exact ⟨busy, silentAgain⟩

/-- An opening whose answer is lost: the client sends it again to a ring with
room, and is refused without an answer. -/
theorem lost_opening_not_recovered :
    let full := (Setup.default false).start.after stuffed
    let first := full.after [.inject openingFrame, .poll]
    let freed := first.after [.completeTransmits]
    let again := freed.after [.inject openingFrame, .poll]
    Operation.poll.result ((Operation.inject openingFrame).next full) = .ok () ∧
      first.nic.outbox = full.nic.outbox ∧ freed.nic.transmitReady = true ∧
      Operation.poll.result ((Operation.inject openingFrame).next freed) =
        .error (.refused (.missingFlag .synReceived .ack)) ∧
      again.nic.outbox = full.nic.outbox := by
  intro full first freed again
  obtain ⟨busy, idle, listening, segment, carried, addressed, -⟩ := opening_at_stuffed
  obtain ⟨accepted, opened⟩ := opening_accepted_at_stuffed
  have moves : (first.pool.get Tcp.Pool.web).state ≠ (full.pool.get Tcp.Pool.web).state := by
    rw [opened, listening]
    decide
  obtain ⟨silent, room, repeated, silentAgain, -⟩ :=
    Interface.lost_answer_refused ((Setup.default false).sound_after stuffed).1 busy idle
      length_openingFrame_le carried addressed (.inl listening) accepted moves
  rcases repeated with ⟨-, refused⟩ | ⟨closed, -⟩
  · exact ⟨accepted, silent, room, refused, silentAgain⟩
  · rw [opened] at closed
    cases closed

end Setup

end NetStack
