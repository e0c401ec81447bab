/-
Module: NetStack.Proofs.Delivery
Purpose: What comes of frames that arrive one by one, each polled before the next
  one arrives: what each of them carries is dealt with, and nothing else happens.
Main exports:
  Parcel.arriving, Tcp.Segment.arriving?, Interface.relayed,
  Interface.outcome_poll_front, Interface.outcome_arrival, Interface.Receipt,
  Interface.receipts, Interface.Resting, Interface.Resting.delivery, Interface.Resting.reacts,
  Setup.openingTo
-/
import NetStack.Proofs.Adapter.Sides
import NetStack.Proofs.Dialogue
import NetStack.Proofs.Emission

namespace NetStack

open Tcp (Segment Message Reaction)
open Interface (Operation)

/-!
A frame that arrives while no other waits is gone from the receive ring once it was
polled, and of the adapter only the sending side is left to look at.  So a delivery
is told by three things: what the frame carries, what is to be done about that, and
where the sending side stood.
-/

/-! ## What arrives -/

/-- What a frame carries once it arrived: no more of it is kept than a packet buffer
holds, and an empty frame is passed over. -/
def Parcel.arriving (frame : Bytes) : Parcel :=
  if frame.take packetSize = [] then .foreign else .ofFrame packetSize (frame.take packetSize)

/-- The segment that a frame carries once it arrived. -/
def Tcp.Segment.arriving? (frame : Bytes) : Option Segment :=
  Segment.ofFrame? packetSize (frame.take packetSize)

theorem Parcel.arriving_of_nonempty {frame : Bytes} (nonempty : frame.take packetSize ≠ []) :
    Parcel.arriving frame = .ofFrame packetSize (frame.take packetSize) :=
  if_neg nonempty

theorem Parcel.arriving_eq_segment_iff {frame : Bytes} {segment : Segment} :
    Parcel.arriving frame = .segment segment ↔ Segment.arriving? frame = some segment := by
  unfold arriving Tcp.Segment.arriving?
  split
  · next empty =>
    rw [empty]
    exact ⟨nofun, nofun⟩
  · exact Parcel.ofFrame_eq_segment_iff

/-- The frame in which a station sends a message carries a segment that says the
same. -/
theorem Tcp.Message.arriving?_frame (message : Message) (station : Interface)
    (fits : message.payload.length ≤ Tcp.maxPayload) :
    ∃ segment, Segment.arriving? (message.frame station) = some segment ∧
      message.source = ⟨segment.sender, segment.header.sourcePort⟩ ∧
      message.destination.port = segment.header.destinationPort ∧
      message.flags = segment.header.flags ∧ message.sequence = segment.header.sequence ∧
      message.acknowledgment = segment.header.acknowledgment ∧
      message.payload = segment.payload := by
  rw [Segment.arriving?, List.take_of_length_le (message.length_frame_le station)]
  exact Message.segment_of_ofFrame? (Message.ofFrame?_frame station fits)

namespace Interface

variable {interface one other : Interface} {traffic : Traffic}

/-! ## Off the adapter -/

/-- The adapter once a frame arrived and was taken off it again. -/
def relayed (interface : Interface) (frame : Bytes) : Nic :=
  ((Operation.inject frame).next interface).taken

/-- A frame that passes through the receive ring leaves the sending side alone. -/
theorem relayed_sendsAlike (carries : interface.nic.Carries traffic)
    (idle : traffic.waiting = []) (frame : Bytes) :
    interface.nic.SendsAlike (interface.relayed frame) ∧
      (interface.relayed frame).Carries traffic := by
  obtain ⟨arrived, injected, arrives, onArrived⟩ := inject_idle carries idle frame
  obtain ⟨handed, onLast⟩ :=
    onArrived.receive_front (Traffic.waiting_arrive idle frame true) rfl (.zeros packetSize)
  have before := carries.sendsAlike_inject frame
  rw [injected] at before
  have emptied : { traffic.arrive frame true with waiting := [] } = traffic := by
    rw [Traffic.arrive, ← idle]
  rw [emptied] at onLast
  rw [relayed, arrives]
  exact ⟨before.trans handed.sends, onLast⟩

/-- Where two adapters send alike, they do after a frame passed through both. -/
theorem relayed_congr {otherTraffic : Traffic} (alike : one.nic.SendsAlike other.nic)
    (onOne : one.nic.Carries traffic) (idle : traffic.waiting = [])
    (onOther : other.nic.Carries otherTraffic) (otherIdle : otherTraffic.waiting = [])
    (frame : Bytes) : (one.relayed frame).SendsAlike (other.relayed frame) := by
  obtain ⟨through, -⟩ := relayed_sendsAlike onOne idle frame
  obtain ⟨otherThrough, -⟩ := relayed_sendsAlike onOther otherIdle frame
  exact through.symm.trans (alike.trans otherThrough)

/-- The frame in front is dealt with by the next poll, as what it carries calls for. -/
theorem outcome_poll_front (carries : interface.nic.Carries traffic) {frame : Bytes}
    {rest : List Arrival} (waiting : traffic.waiting = ⟨frame.take packetSize, true⟩ :: rest) :
    poll.outcome interface =
      let done := (interface.handling (.arriving frame)).outcome
        { interface with nic := interface.taken }
      (done.1.map fun () => (frame.take packetSize).length, done.2) := by
  rw [poll_eq_pollInto, Parcel.arriving]
  split
  · next empty =>
    have nothing : traffic.next? = none := by
      rw [Traffic.next?, waiting]
      exact if_neg fun taken => taken.2 empty
    rw [outcome_pollInto_idle carries nothing, empty]
    rfl
  · next nonempty =>
    have front : traffic.next? = some (frame.take packetSize) := by
      rw [Traffic.next?, waiting]
      exact if_pos ⟨rfl, nonempty⟩
    rw [outcome_pollInto_parcel carries front, Bytes.length_zeros]

/-- A frame that arrives while no other waits is the one in front. -/
theorem outcome_arrival (carries : interface.nic.Carries traffic) (idle : traffic.waiting = [])
    (frame : Bytes) :
    poll.outcome ((Operation.inject frame).next interface) =
      let done := (interface.handling (.arriving frame)).outcome
        { interface with nic := interface.relayed frame }
      (done.1.map fun () => (frame.take packetSize).length, done.2) := by
  obtain ⟨arrived, injected, arrives, onArrived⟩ := inject_idle carries idle frame
  let polling : Interface := { interface with nic := arrived }
  have onPolling : polling.nic.Carries (traffic.arrive frame true) := onArrived
  have relays : polling.taken = interface.relayed frame := by rw [relayed, arrives]
  rw [arrives, outcome_poll_front onPolling (Traffic.waiting_arrive idle frame true), relays,
    handling_nic]

/-! ## What comes of a delivery -/

/-- What comes of one frame that arrives and is polled. -/
structure Receipt where
  frame : Bytes
  accepted : Except Failure Bool
  answer : Except Failure Nat
  sent : List Bytes

def receipt (interface : Interface) (frame : Bytes) : Receipt where
  frame := frame
  accepted := ((onNic (Nic.inject frame)).outcome interface).1
  answer := (poll.outcome ((Operation.inject frame).next interface)).1
  sent := interface.emissions [.inject frame, .poll]

/-- What comes of frames delivered one by one. -/
def receipts (interface : Interface) : List Bytes → List Receipt
  | [] => []
  | frame :: frames =>
      interface.receipt frame :: receipts (interface.after [.inject frame, .poll]) frames

theorem after_deliveries_nil (interface : Interface) :
    interface.after (deliveries []) = interface := rfl

theorem after_deliveries_append (interface : Interface) (earlier later : List Bytes) :
    interface.after (deliveries (earlier ++ later)) =
      (interface.after (deliveries earlier)).after (deliveries later) := by
  rw [deliveries, List.flatMap_append, after_append]
  rfl

theorem emissions_deliveries (interface : Interface) (frames : List Bytes) :
    interface.emissions (deliveries frames) =
      (interface.receipts frames).flatMap Receipt.sent := by
  induction frames generalizing interface with
  | nil => rfl
  | cons frame frames inductiveHypothesis =>
      rw [receipts, List.flatMap_cons, ← inductiveHypothesis, deliveries, List.flatMap_cons,
        emissions_append]
      rfl

/-! ## Handling with room -/

namespace Handling

/-- What it comes to where there is room for an answer. -/
def verdict : Handling → Except Failure Unit
  | .refuses failure => .error failure
  | .settles _ => .ok ()
  | .answers _ _ _ _ => .ok ()

/-- What is remembered then. -/
def remembered (before : Memory) : Handling → Memory
  | .refuses _ => before
  | .settles next => next
  | .answers _ sent _ _ => sent

/-- What is sent then. -/
def frames : Handling → List Bytes
  | .refuses _ => []
  | .settles _ => []
  | .answers frame _ _ _ => [frame.take packetSize]

/-- The adapter then. -/
def leaving (nic : Nic) : Handling → Nic
  | .refuses _ => nic
  | .settles _ => nic
  | .answers frame _ _ _ => ((Nic.transmit frame).outcome nic).2

/-- A running adapter has room, so that there is one way in which a frame can be
handled. -/
theorem outcome_running {nic : Nic} {waiting : List Arrival}
    (carries : interface.nic.Carries traffic) (running : traffic.automatic = true)
    (onNic : nic.Carries { traffic with waiting }) (handling : Handling) :
    handling.outcome { interface with nic } =
        (handling.verdict,
          { interface.recalling (handling.remembered interface.memory) with
            nic := handling.leaving nic }) ∧
      (handling.leaving nic).sent = interface.nic.sent ++ handling.frames ∧
      ∃ later, (handling.leaving nic).Carries later ∧ later.waiting = waiting := by
  have kept : nic.sent = interface.nic.sent ++ [] := by
    rw [onNic.sent, carries.sent, List.append_nil]
  cases handling with
  | refuses failure => exact ⟨rfl, kept, _, onNic, rfl⟩
  | settles next => exact ⟨rfl, kept, _, onNic, rfl⟩
  | answers frame sent unsent excused =>
      have room : Traffic.hasRoom { traffic with waiting } = true := carries.prompt.hasRoom running
      obtain ⟨-, onLast⟩ := transmit_cases onNic frame
      rw [room, if_pos rfl] at onLast
      obtain ⟨handled, joined⟩ := sent_answers carries running onNic
      exact ⟨handled, joined, _, onLast, Traffic.waiting_enqueue _ _⟩

/-- Where two adapters send alike, they do after the same was done on both. -/
theorem leaving_congr {nic otherNic : Nic} (alike : nic.SendsAlike otherNic)
    (carries : nic.Carries traffic) (handling : Handling) :
    (handling.leaving nic).SendsAlike (handling.leaving otherNic) := by
  cases handling with
  | refuses failure => exact alike
  | settles next => exact alike
  | answers frame sent unsent excused => exact alike.enqueue carries frame

end Handling

/-! ## One delivery -/

/-- A sound interface on a running adapter, on which no frame waits. -/
structure Resting (interface : Interface) : Prop where
  sound : interface.Sound true
  idle : interface.nic.receiveReady = false

variable {frame : Bytes}

namespace Resting

/-- What comes of a frame is what is to be done about what it carries. -/
theorem delivery (resting : interface.Resting) (frame : Bytes) :
    let handling := interface.handling (.arriving frame)
    interface.receipt frame =
        { frame
          accepted := .ok true
          answer := handling.verdict.map fun () => (frame.take packetSize).length
          sent := handling.frames } ∧
      interface.after [.inject frame, .poll] =
        { interface.recalling (handling.remembered interface.memory) with
          nic := handling.leaving (interface.relayed frame) } ∧
      (handling.leaving (interface.relayed frame)).receiveReady = false := by
  intro handling
  obtain ⟨traffic, carries, running, empty⟩ := resting.sound.at_rest resting.idle
  obtain ⟨arrived, injected, arrives, onArrived⟩ := inject_idle carries empty frame
  obtain ⟨-, onRelayed⟩ := relayed_sendsAlike carries empty frame
  have polled := outcome_arrival carries empty frame
  obtain ⟨handled, sent, later, onLast, waiting⟩ :=
    Handling.outcome_running carries running onRelayed handling
  rw [handled] at polled
  dsimp only at polled
  have left : interface.after [.inject frame, .poll] =
      { interface.recalling (handling.remembered interface.memory) with
        nic := handling.leaving (interface.relayed frame) } := by
    rw [after, after, after, Operation.next, outcome_perform_poll, polled]
  refine ⟨?_, left, ?_⟩
  · have still : arrived.sent = interface.nic.sent := by
      rw [onArrived.sent, carries.sent]
      rfl
    have silent : (Operation.inject frame).emitted interface = [] := by
      rw [Operation.emitted, arrives, still, List.drop_length]
    have speaks : Operation.poll.emitted ((Operation.inject frame).next interface) =
        handling.frames := by
      have polls : Operation.poll.next ((Operation.inject frame).next interface) =
          { interface.recalling (handling.remembered interface.memory) with
            nic := handling.leaving (interface.relayed frame) } := left
      rw [Operation.emitted, polls, arrives, sent, still, List.drop_left]
    have emitted : interface.emissions [.inject frame, .poll] = handling.frames := by
      rw [emissions, turns, turns, turns, List.flatMap_cons, List.flatMap_singleton, silent,
        speaks]
      rfl
    rw [receipt, polled, outcome_onNic, injected, emitted]
  · rw [onLast.receiveReady, waiting, empty]
    rfl

theorem after_delivery (resting : interface.Resting) (frame : Bytes) :
    (interface.after [.inject frame, .poll]).Resting where
  sound := (resting.sound.next (.inject frame)).next .poll
  idle := by
    obtain ⟨-, left, idle⟩ := resting.delivery frame
    rw [left]
    exact idle

theorem after_deliveries (resting : interface.Resting) (frames : List Bytes) :
    (interface.after (deliveries frames)).Resting := by
  induction frames generalizing interface with
  | nil => exact resting
  | cons frame frames inductiveHypothesis =>
      exact inductiveHypothesis (resting.after_delivery frame)

/-- A segment that its channel reacts to is taken, and changes that channel and no
other. -/
theorem reacts (resting : interface.Resting) {segment : Segment}
    (carried : Segment.arriving? frame = some segment) {index : Fin Tcp.poolSize}
    (serves : Tcp.Pool.localPort index = segment.header.destinationPort) {reaction : Reaction}
    (how : Tcp.Channel.Reacts (interface.pool.get index) segment reaction) :
    (interface.receipt frame).accepted = .ok true ∧
      (interface.receipt frame).answer = .ok (frame.take packetSize).length ∧
      (interface.after [.inject frame, .poll]).pool =
        interface.pool.set index reaction.next := by
  have found := (Tcp.Pool.find?_eq_some_iff resting.sound.bound).mpr serves
  have handles : interface.handling (.arriving frame) =
      interface.reactionHandling index reaction := by
    rw [Parcel.arriving_eq_segment_iff.mpr carried, handling, segmentHandling, found]
    dsimp only
    rw [how.react_eq]
  obtain ⟨received, left, -⟩ := resting.delivery frame
  rw [handles] at received left
  rw [received, left]
  unfold reactionHandling
  cases reaction.answer? with
  | none => exact ⟨rfl, rfl, rfl⟩
  | some answer =>
      dsimp only [Handling.verdict, Handling.remembered]
      rw [Reaction.channelAfter_true]
      exact ⟨rfl, rfl, rfl⟩

/-- A bare SYN to a listening channel opens it for whoever sent it. -/
theorem takes_syn (resting : interface.Resting) {segment : Segment}
    (carried : Segment.arriving? frame = some segment) {index : Fin Tcp.poolSize}
    (serves : Tcp.Pool.localPort index = segment.header.destinationPort)
    (listening : (interface.pool.get index).state = .listen)
    (syn : segment.header.flags.contains .syn = true)
    (bare : segment.header.flags.contains .ack = false) :
    (interface.receipt frame).accepted = .ok true ∧
      (interface.receipt frame).answer = .ok (frame.take packetSize).length ∧
      (interface.after [.inject frame, .poll]).pool.get index =
        { interface.pool.get index with
          state := .synReceived
          guest := ⟨segment.sender, segment.header.sourcePort⟩
          sequence := segment.header.sequence + 1
          acknowledgment := segment.header.sequence + 1 } := by
  obtain ⟨accepted, answered, becomes⟩ :=
    resting.reacts carried serves (.opens listening syn bare)
  refine ⟨accepted, answered, ?_⟩
  rw [becomes, Tcp.Pool.get_set_same]
  rfl

end Resting

end Interface

namespace Setup

theorem resting_after (setup : Setup) (running : setup.automatic = true)
    (operations : List Operation)
    (idle : (setup.start.after operations).nic.receiveReady = false) :
    (setup.start.after operations).Resting :=
  ⟨running ▸ (setup.sound_after operations).1, idle⟩

theorem resting_start (setup : Setup) (running : setup.automatic = true) :
    setup.start.Resting :=
  setup.resting_after running [] setup.carries_start.receiveReady

/-- The frame in which a client opens a connection to a port. -/
def openingTo (port : UInt16) : Bytes :=
  Tcp.Message.frame
    { source := ⟨⟨10, 0, 2, 2⟩, 51000⟩
      destination := ⟨⟨10, 0, 2, 15⟩, port⟩
      flags := .syn
      sequence := 1000
      acknowledgment := 0
      payload := [] }
    (Setup.default true).start

theorem arriving?_openingTo (port : UInt16) :
    ∃ segment, Segment.arriving? (openingTo port) = some segment ∧
      segment.sender = ⟨10, 0, 2, 2⟩ ∧ segment.header.sourcePort = 51000 ∧
      segment.header.destinationPort = port ∧ segment.header.flags = .syn ∧
      segment.header.sequence = 1000 := by
  obtain ⟨segment, carried, source, destination, flags, sequence, -⟩ :=
    Tcp.Message.arriving?_frame
      { source := ⟨⟨10, 0, 2, 2⟩, 51000⟩
        destination := ⟨⟨10, 0, 2, 15⟩, port⟩
        flags := .syn
        sequence := 1000
        acknowledgment := 0
        payload := [] }
      (Setup.default true).start (Nat.zero_le _)
  obtain ⟨sender, sourcePort⟩ := Endpoint.mk.inj source
  exact ⟨segment, carried, sender.symm, sourcePort.symm, destination.symm, flags.symm,
    sequence.symm⟩

/-- The web channel waits for that client once it opened a connection to it. -/
theorem opened_web :
    let reached := (Setup.default true).start.after (Interface.deliveries [openingTo 80])
    reached.Resting ∧
      reached.pool.get Tcp.Pool.web =
        { state := .synReceived
          host := ⟨⟨10, 0, 2, 15⟩, 80⟩
          guest := ⟨⟨10, 0, 2, 2⟩, 51000⟩
          sequence := 1001
          acknowledgment := 1001
          window := .empty } := by
  intro reached
  have resting := (Setup.default true).resting_start rfl
  refine ⟨resting.after_deliveries [openingTo 80], ?_⟩
  obtain ⟨segment, carried, sender, sourcePort, destinationPort, flags, sequence⟩ :=
    arriving?_openingTo 80
  have listening : (Setup.default true).start.pool.get Tcp.Pool.web =
      .listening ⟨⟨10, 0, 2, 15⟩, 80⟩ ⟨⟨10, 0, 2, 2⟩, 8080⟩ := by
    rw [pool_start, Tcp.Pool.get_listening]
    rfl
  have serves : Tcp.Pool.localPort Tcp.Pool.web = segment.header.destinationPort :=
    destinationPort.symm
  obtain ⟨-, -, becomes⟩ := resting.takes_syn carried serves (by rw [listening]; rfl)
    (by rw [flags]; rfl) (by rw [flags]; rfl)
  have last : reached.pool.get Tcp.Pool.web = _ := becomes
  rw [last, listening, sender, sourcePort, sequence]
  rfl

end Setup

end NetStack
