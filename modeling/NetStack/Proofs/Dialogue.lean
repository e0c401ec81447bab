/-
Module: NetStack.Proofs.Dialogue
Purpose: Frames delivered one by one to an interface on a running adapter, each
  answered by one frame before the next one is delivered.
Main exports:
  Tcp.Message.frame, Interface.deliveries, Interface.Answered,
  Interface.Dialogue, Interface.Attentive, Interface.Attentive.turn
-/
import NetStack.Proofs.Invariant

namespace NetStack

open Tcp (Segment Message Reaction)

/-! ## Frames for messages -/

/-- The frame in which a station with this state would send a message. -/
def Tcp.Message.frame (message : Message) (station : Interface) : Bytes :=
  let sender := { station with config := { station.config with address := message.source.address } }
  let channel : Tcp.Channel := {
    state := .established
    host := message.source
    guest := message.destination
    sequence := message.sequence
    acknowledgment := message.acknowledgment
    window := .empty }
  sender.segmentFrame channel message.flags message.payload

theorem Tcp.Message.ofFrame?_frame {message : Message} (station : Interface)
    (fits : message.payload.length ≤ Tcp.maxPayload) :
    Message.ofFrame? (message.frame station) = some message := by
  unfold Tcp.Message.frame
  rw [Interface.messageOfFrame?_segmentFrame, List.take_of_length_le fits]

theorem Tcp.Message.length_frame_le (message : Message) (station : Interface) :
    (message.frame station).length ≤ packetSize := by
  unfold Tcp.Message.frame
  rw [← Interface.take_segmentFrame]
  exact List.length_take_le _ _

theorem Tcp.Message.map_ofFrame?_frame {messages : List Message} (station : Interface)
    (fit : ∀ message ∈ messages, message.payload.length ≤ Tcp.maxPayload) :
    (messages.map fun message => message.frame station).map Message.ofFrame? =
      messages.map some := by
  rw [List.map_map]
  exact List.map_congr_left fun message member => ofFrame?_frame station (fit message member)

/-- A frame with a message in it carries a segment that says the same. -/
theorem Tcp.Message.segment_of_ofFrame? {frame : Bytes} {message : Message}
    (read : Message.ofFrame? frame = some message) :
    ∃ segment, Segment.ofFrame? packetSize frame = some segment ∧
      message.source = ⟨segment.sender, segment.header.sourcePort⟩ ∧
      message.destination.port = segment.header.destinationPort ∧
      message.flags = segment.header.flags ∧ message.sequence = segment.header.sequence ∧
      message.acknowledgment = segment.header.acknowledgment ∧
      message.payload = segment.payload := by
  unfold Tcp.Message.ofFrame? at read
  obtain ⟨segment, carried, read⟩ := Option.bind_eq_some_iff.mp read
  obtain ⟨packet, -, read⟩ := Option.bind_eq_some_iff.mp read
  cases read
  exact ⟨segment, carried, rfl, rfl, rfl, rfl, rfl, rfl⟩

namespace Interface

/-! ## Delivery -/

/-- A sound interface on which no frame waits. -/
theorem Sound.at_rest {interface : Interface} {automatic : Bool}
    (sound : interface.Sound automatic) (idle : interface.nic.receiveReady = false) :
    ∃ traffic, interface.nic.Carries traffic ∧ traffic.automatic = automatic ∧
      traffic.waiting = [] := by
  obtain ⟨traffic, carries, same⟩ := sound.wired
  rw [carries.receiveReady] at idle
  exact ⟨traffic, carries, same, by simpa using idle⟩

/-- A frame that arrives while no other waits is accepted. -/
theorem inject_idle {interface : Interface} {traffic : Traffic}
    (carries : interface.nic.Carries traffic) (idle : traffic.waiting = []) (frame : Bytes) :
    ∃ arrived, (Nic.inject frame).outcome interface.nic = (.ok true, arrived) ∧
      (Operation.inject frame).next interface = { interface with nic := arrived } ∧
      arrived.Carries (traffic.arrive frame true) := by
  have room : traffic.waiting.length + 1 < ringSize := by
    rw [idle]
    decide
  obtain ⟨arrived, injected, onArrived⟩ := carries.inject frame room
  refine ⟨arrived, injected, ?_, onArrived⟩
  rw [Operation.next_inject, injected]

/-- A frame that arrives while no other waits is polled next, and its segment is
processed on an adapter that carries what it carried before. -/
theorem poll_injected {interface : Interface} {traffic : Traffic}
    (carries : interface.nic.Carries traffic) (idle : traffic.waiting = []) {frame : Bytes}
    (fits : frame.length ≤ packetSize) {segment : Segment}
    (carried : Segment.ofFrame? packetSize frame = some segment) :
    ∃ arrived nic, (Nic.inject frame).outcome interface.nic = (.ok true, arrived) ∧
      nic.Carries traffic ∧
      poll.outcome { interface with nic := arrived } =
        let done := (processSegment segment).outcome { interface with nic }
        (done.1.map fun () => frame.length, done.2) := by
  obtain ⟨arrived, injected, -, onArrived⟩ := inject_idle carries idle frame
  have nonempty : frame ≠ [] := by
    rintro rfl
    cases carried
  have cut : frame.take packetSize = frame := List.take_of_length_le fits
  have front : (traffic.arrive frame true).next? = some frame := by
    rw [Traffic.next?_arrive idle (by rwa [cut]), cut]
  let polling : Interface := { interface with nic := arrived }
  have onPolling : polling.nic.Carries (traffic.arrive frame true) := onArrived
  rw [← Bytes.length_zeros packetSize] at carried
  obtain ⟨nic, -, onNic, polled⟩ := pollInto_of_some onPolling front carried
  rw [Traffic.advance_arrive idle] at onNic
  exact ⟨arrived, nic, injected, onNic, polled⟩

/-- Frames delivered one by one, each polled before the next one arrives. -/
def deliveries (frames : List Bytes) : List Operation :=
  frames.flatMap fun frame => [.inject frame, .poll]

/-- Where a delivery leads. -/
theorem after_delivery {interface arrived last : Interface} {frame : Bytes} {accepted : Bool}
    {answer : Except Failure Nat}
    (injected : (onNic (Nic.inject frame)).outcome interface = (.ok accepted, arrived))
    (polled : poll.outcome arrived = (answer, last)) :
    interface.after [.inject frame, .poll] = last := by
  have arrives : (Operation.inject frame).next interface = arrived := by
    rw [Operation.next, perform, Action.outcome_map, injected]
  rw [after, after, after, arrives, Operation.next, perform, Action.outcome_map, polled]

/-! ## Turn by turn -/

/-- A frame arrives, polling succeeds on it, and exactly one frame is sent, which
holds the message. -/
def Answered (before : Interface) (frame : Bytes) (message : Message) (after : Interface) : Prop :=
  ∃ arrived answer,
    (onNic (Nic.inject frame)).outcome before = (.ok true, arrived) ∧
      poll.outcome arrived = (.ok frame.length, after) ∧
      after.nic.sent = before.nic.sent ++ [answer] ∧
      Message.ofFrame? answer = some message

/-- Each of the frames is answered by the message in its place. -/
inductive Dialogue : Interface → List Bytes → List Message → Interface → Prop where
  | done (interface : Interface) : Dialogue interface [] [] interface
  | turn {first middle last : Interface} {frame : Bytes} {frames : List Bytes} {message : Message}
      {messages : List Message} (answered : Answered first frame message middle)
      (rest : Dialogue middle frames messages last) :
      Dialogue first (frame :: frames) (message :: messages) last

namespace Dialogue

theorem append {first middle last : Interface} {frames more : List Bytes}
    {messages further : List Message} (earlier : Dialogue first frames messages middle)
    (later : Dialogue middle more further last) :
    Dialogue first (frames ++ more) (messages ++ further) last := by
  induction earlier with
  | done => exact later
  | turn answered rest inductiveHypothesis => exact .turn answered (inductiveHypothesis later)

/-- A dialogue is a run. -/
theorem after_deliveries {first last : Interface} {frames : List Bytes} {messages : List Message}
    (dialogue : Dialogue first frames messages last) :
    first.after (deliveries frames) = last := by
  induction dialogue with
  | done => rfl
  | @turn first middle last frame frames message messages answered rest inductiveHypothesis =>
      obtain ⟨arrived, answer, injected, polled, -⟩ := answered
      have delivered : first.after [.inject frame, .poll] = middle :=
        after_delivery injected polled
      rw [deliveries, List.flatMap_cons, after_append, delivered]
      exact inductiveHypothesis

/-- What a dialogue makes the stack send, and nothing else, is its messages in
their order. -/
theorem sent {first last : Interface} {frames : List Bytes} {messages : List Message}
    (dialogue : Dialogue first frames messages last) :
    ∃ answers, last.nic.sent = first.nic.sent ++ answers ∧
      answers.map Message.ofFrame? = messages.map some := by
  induction dialogue with
  | done interface => exact ⟨[], by simp⟩
  | turn answered rest inductiveHypothesis =>
      obtain ⟨arrived, answer, -, -, left, message⟩ := answered
      obtain ⟨answers, leftLater, messages⟩ := inductiveHypothesis
      refine ⟨answer :: answers, ?_, ?_⟩
      · rw [leftLater, left, List.append_assoc]
        rfl
      · simp [message, messages]

end Dialogue

/-! ## One turn -/

/-- An interface on a running adapter with nothing to do. -/
structure Attentive (interface : Interface) : Prop where
  idle : ∃ sent, interface.nic.Carries { automatic := true, waiting := [], pending := [], sent }
  bound : interface.pool.Bound interface.config.address

/-- A sound interface on a running adapter is attentive when no frame waits. -/
theorem Sound.attentive {interface : Interface} (sound : interface.Sound true)
    (idle : interface.nic.receiveReady = false) : interface.Attentive where
  idle := by
    obtain ⟨traffic, carries, running, empty⟩ := sound.at_rest idle
    refine ⟨traffic.sent, ?_⟩
    have pending := carries.prompt running
    obtain ⟨automatic, waiting, queued, sent⟩ := traffic
    cases empty
    cases pending
    cases running
    exact carries
  bound := sound.bound

/-- A frame whose segment calls for an answer is answered from the numbers of the
staged channel, and the channel becomes the next one. -/
theorem Attentive.turn {interface : Interface} (attentive : interface.Attentive)
    {frame : Bytes} (fits : frame.length ≤ packetSize) {segment : Segment}
    (carried : Segment.ofFrame? packetSize frame = some segment) {index : Fin Tcp.poolSize}
    (addressed : Tcp.Pool.localPort index = segment.header.destinationPort)
    {reaction : Reaction} {answer : Tcp.Answer}
    (how : Tcp.Channel.Reacts (interface.pool.get index) segment reaction)
    (due : reaction.answer? = some answer) :
    ∃ after,
      Answered interface frame
        { source := ⟨interface.config.address, reaction.staged.host.port⟩
          destination := reaction.staged.guest
          flags := answer.flags
          sequence := reaction.staged.sequence
          acknowledgment := reaction.staged.acknowledgment
          payload := answer.payload.take Tcp.maxPayload }
        after ∧
      after.Attentive ∧ after.config = interface.config ∧
      after.pool.get index = reaction.next := by
  obtain ⟨sent, carries⟩ := attentive.idle
  obtain ⟨arrived, nic, injected, onNic, polled⟩ := poll_injected carries rfl fits carried
  let taken : Interface := { interface with nic }
  have onTaken : taken.nic.Carries { automatic := true, waiting := [], pending := [], sent } :=
    onNic
  have serves := (Tcp.Pool.find?_eq_some_iff attentive.bound).mpr addressed
  obtain ⟨last, identification, processed, onLast⟩ :=
    processSegment_reacts onTaken serves how.react_eq
  have left : taken.answered reaction
      { automatic := true, waiting := [], pending := [], sent } =
        { automatic := true
          waiting := []
          pending := []
          sent := sent ++
            [interface.segmentFrame reaction.staged answer.flags answer.payload] } := by
    rw [answered, due]
    rfl
  have room : Traffic.hasRoom { automatic := true, waiting := [], pending := [], sent } = true :=
    rfl
  rw [room, Reaction.verdict_true, Reaction.channelAfter_true] at processed
  rw [left] at onLast
  let after : Interface := { taken with
    nic := last
    identification
    pool := interface.pool.set index reaction.next }
  have message := interface.messageOfFrame?_segmentFrame reaction.staged answer.flags answer.payload
  refine ⟨after, ⟨{ interface with nic := arrived }, _, ?_, ?_, ?_, message⟩, ?_, rfl, ?_⟩
  · rw [outcome_onNic, injected]
  · rw [polled, processed]
    rfl
  · rw [onLast.sent, carries.sent]
  · constructor
    · exact ⟨_, onLast⟩
    · refine attentive.bound.set ?_
      have kept := how.host_eq true
      rwa [Reaction.channelAfter_true] at kept
  · exact Tcp.Pool.get_set_same _ _ _

end Interface

end NetStack
