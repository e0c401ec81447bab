/-
Module: NetStack.Proofs.Strangers
Purpose: A channel that serves a peer does not notice other traffic, and what others
  send to its port might as well not have been sent.
Main exports:
  Interface.FromPeer, Interface.Strange, Interface.SendsAlike, Interface.Erases,
  Interface.Sound.handling_apart, Interface.Resting.apart_delivery,
  Interface.Resting.strange_delivery, Interface.Resting.alike_delivery,
  Setup.strangers_leave_no_trace
-/
import NetStack.Proofs.Isolation
import NetStack.Proofs.Peers

namespace NetStack

open Tcp (Segment)
open Interface (Operation)

/-!
Whatever is not a segment changes no channel, and is never answered from a port.  A
segment for another port is answered from that port.  A segment for the port itself
that does not come from the peer is not answered, and changes nothing: of such a frame
only the receive ring keeps a trace.  What is done about the frames behind it does not
depend on the receive ring, so they can be followed through a run in which it is
missing.
-/

namespace Interface

variable {interface one other : Interface} {automatic : Bool} {index : Fin Tcp.poolSize}
  {parcel : Parcel} {frame : Bytes}

/-! ## What others send -/

/-- A frame that carries a segment to the port of a channel from the address of its
peer. -/
def FromPeer (interface : Interface) (index : Fin Tcp.poolSize) (frame : Bytes) : Prop :=
  ∃ segment, Segment.arriving? frame = some segment ∧
    segment.header.destinationPort = Tcp.Pool.localPort index ∧
    segment.sender = (interface.pool.get index).guest.address

/-- A frame that is addressed to the port of a channel while that channel serves
somebody else. -/
structure Strange (interface : Interface) (index : Fin Tcp.poolSize) (frame : Bytes) :
    Prop where
  serving : (interface.pool.get index).state ≠ .listen
  addressed : Tcp.addressee? frame = some (Tcp.Pool.localPort index)
  apart : ¬interface.FromPeer index frame

/-- Every segment to the port from another address makes a frame strange. -/
theorem Strange.of_segment {segment : Segment}
    (serving : (interface.pool.get index).state ≠ .listen)
    (carried : Segment.arriving? frame = some segment)
    (addressed : segment.header.destinationPort = Tcp.Pool.localPort index)
    (stranger : segment.sender ≠ (interface.pool.get index).guest.address) :
    interface.Strange index frame where
  serving := serving
  addressed := by
    rw [← addressed]
    exact Tcp.addressee?_of_segment carried
  apart := by
    rintro ⟨same, alsoCarried, -, peer⟩
    rw [carried] at alsoCarried
    cases alsoCarried
    exact stranger peer

/-! ## What is done about it -/

theorem packetHandling_portless (interface : Interface) {protocol : UInt8}
    (other : protocol ≠ Ipv4.Protocol.tcp) (destination : Ipv4Address)
    {made : Except Fault Bytes}
    (fits : ∀ payload, made = .ok payload → payload.length ≤ Ipv4.maxPayload) :
    ((interface.packetHandling protocol destination made).remembered interface.memory).pool =
        interface.pool ∧
      ∀ sent ∈ (interface.packetHandling protocol destination made).frames,
        Tcp.sender? sent = none := by
  cases made with
  | error cause => exact ⟨rfl, nofun⟩
  | ok payload =>
      refine ⟨rfl, fun sent member => ?_⟩
      obtain rfl := List.mem_singleton.mp member
      rw [interface.take_packetFrame (fits payload rfl), Tcp.sender?,
        interface.ports?_packetFrame_other other]
      rfl

/-- What is no segment changes no channel, and is not answered from any port. -/
theorem handling_portless (interface : Interface) (portless : ∀ segment, parcel ≠ .segment segment) :
    ((interface.handling parcel).remembered interface.memory).pool = interface.pool ∧
      ∀ sent ∈ (interface.handling parcel).frames, Tcp.sender? sent = none := by
  have messages (destination : MacAddress) (message : Arp.Message) :
      Tcp.sender? ((interface.messageFrame destination message).take packetSize) = none := by
    rw [interface.take_messageFrame, Tcp.sender?, interface.ports?_messageFrame]
    rfl
  have silent (sent : Bytes) (member : sent ∈ ([] : List Bytes)) : Tcp.sender? sent = none :=
    absurd member List.not_mem_nil
  have deals := interface.deals parcel
  generalize interface.handling parcel = handling at deals ⊢
  cases deals with
  | drops cause => exact ⟨rfl, silent⟩
  | passes => exact ⟨rfl, silent⟩
  | tells asks =>
      refine ⟨rfl, fun sent member => ?_⟩
      obtain rfl := List.mem_singleton.mp member
      exact messages _ _
  | hears other => exact ⟨rfl, silent⟩
  | asks unknown =>
      refine ⟨rfl, fun sent member => ?_⟩
      obtain rfl := List.mem_singleton.mp member
      exact messages _ _
  | @echoes sender message station known =>
      have icmp : Ipv4.Protocol.icmp ≠ Ipv4.Protocol.tcp := by decide
      refine interface.packetHandling_portless icmp sender fun reply made => ?_
      rw [Icmp.length_echoReply made]
      exact List.length_take_le _ _
  | forwards payload =>
      have udp : Ipv4.Protocol.udp ≠ Ipv4.Protocol.tcp := by decide
      exact interface.packetHandling_portless udp _ fun _ made => length_hostDatagram made
  | @unserved segment closed => exact absurd rfl (portless segment)
  | @rejects segment index failure serves fails => exact absurd rfl (portless segment)
  | @reacts segment index reaction serves reacts => exact absurd rfl (portless segment)

/-- What does not come from the peer of a channel leaves the channel as it is, and is
not answered from its port. -/
theorem Sound.handling_apart (sound : interface.Sound automatic)
    (serving : (interface.pool.get index).state ≠ .listen)
    (apart : ∀ segment, parcel = .segment segment →
      segment.header.destinationPort = Tcp.Pool.localPort index →
        segment.sender ≠ (interface.pool.get index).guest.address) :
    ((interface.handling parcel).remembered interface.memory).pool.get index =
        interface.pool.get index ∧
      ∀ sent ∈ (interface.handling parcel).frames,
        Tcp.sender? sent ≠ some (Tcp.Pool.localPort index) := by
  by_cases carries : ∃ segment, parcel = .segment segment
  · obtain ⟨segment, rfl⟩ := carries
    by_cases here : segment.header.destinationPort = Tcp.Pool.localPort index
    · have stranger := apart segment rfl here
      rcases sound.handling_misfit here.symm serving fun fits => stranger fits.peer with
        ⟨failure, refused⟩ | settled
      · rw [refused]
        exact ⟨rfl, nofun⟩
      · rw [settled]
        exact ⟨rfl, nofun⟩
    · have alike := (AgreeAt.refl segment.header.destinationPort interface).matches sound sound
        (.segment rfl)
      refine ⟨(alike.confined here).channels index rfl, fun sent member => ?_⟩
      rw [alike.sender_eq sent member]
      exact fun same => here (Option.some.inj same)
  · obtain ⟨kept, portless⟩ := interface.handling_portless fun segment same =>
      carries ⟨segment, same⟩
    rw [kept]
    refine ⟨rfl, fun sent member => ?_⟩
    rw [portless sent member]
    exact nofun

/-- There is nothing to be done about a strange frame. -/
theorem Sound.handling_strange (sound : interface.Sound automatic)
    (strange : interface.Strange index frame) :
    (∃ failure, interface.handling (.arriving frame) = .refuses failure) ∨
      interface.handling (.arriving frame) = .settles interface.memory := by
  have concerns := Parcel.arriving_for strange.addressed
  cases carried : Parcel.arriving frame with
  | segment segment =>
      rw [carried] at concerns
      cases concerns with
      | segment addressed =>
        refine sound.handling_misfit addressed.symm strange.serving fun fits => ?_
        exact strange.apart
          ⟨segment, Parcel.arriving_eq_segment_iff.mp carried, addressed, fits.peer⟩
  | unreadable cause => exact .inl ⟨_, rfl⟩
  | _ =>
      rw [carried] at concerns
      cases concerns

/-! ## What comes of it -/

/-- A frame that does not come from the peer of a channel leaves the channel as it is,
and makes nothing be sent from its port. -/
theorem Resting.apart_delivery (resting : interface.Resting)
    (serving : (interface.pool.get index).state ≠ .listen)
    (apart : ¬interface.FromPeer index frame) :
    (interface.after [.inject frame, .poll]).pool.get index = interface.pool.get index ∧
      ∀ sent ∈ (interface.receipt frame).sent,
        Tcp.sender? sent ≠ some (Tcp.Pool.localPort index) := by
  obtain ⟨received, left, -⟩ := resting.delivery frame
  rw [received, left]
  refine resting.sound.handling_apart serving fun segment carried addressed peer => ?_
  exact apart ⟨segment, Parcel.arriving_eq_segment_iff.mp carried, addressed, peer⟩

/-- Interfaces that differ at most in the receive ring and in where they stand in it. -/
structure SendsAlike (one other : Interface) : Prop where
  config : other.config = one.config
  cache : other.cache = one.cache
  pool : other.pool = one.pool
  identification : other.identification = one.identification
  nic : one.nic.SendsAlike other.nic

namespace SendsAlike

theorem refl (sound : interface.Sound automatic) : interface.SendsAlike interface := by
  obtain ⟨traffic, carries, -⟩ := sound.wired
  exact ⟨rfl, rfl, rfl, rfl, carries.sendsAlike_refl⟩

theorem symm (alike : SendsAlike one other) : SendsAlike other one where
  config := alike.config.symm
  cache := alike.cache.symm
  pool := alike.pool.symm
  identification := alike.identification.symm
  nic := alike.nic.symm

theorem trans {third : Interface} (first : SendsAlike one other)
    (second : SendsAlike other third) : SendsAlike one third where
  config := second.config.trans first.config
  cache := second.cache.trans first.cache
  pool := second.pool.trans first.pool
  identification := second.identification.trans first.identification
  nic := first.nic.trans second.nic

/-- They are the same but for the adapter. -/
theorem eq (alike : SendsAlike one other) : other = { one with nic := other.nic } := by
  obtain ⟨config, cache, pool, identification, -⟩ := alike
  cases one
  cases other
  cases config
  cases cache
  cases pool
  cases identification
  rfl

end SendsAlike

/-- A strange frame makes nothing be sent, and leaves a trace in the receive ring at
most. -/
theorem Resting.strange_delivery (resting : interface.Resting)
    (strange : interface.Strange index frame) :
    (interface.receipt frame).sent = [] ∧
      interface.SendsAlike (interface.after [.inject frame, .poll]) := by
  obtain ⟨traffic, carries, -, empty⟩ := resting.sound.at_rest resting.idle
  obtain ⟨through, -⟩ := relayed_sendsAlike carries empty frame
  obtain ⟨received, left, -⟩ := resting.delivery frame
  rcases resting.sound.handling_strange strange with ⟨failure, refused⟩ | settled
  · rw [refused] at received left
    rw [received, left]
    exact ⟨rfl, rfl, rfl, rfl, rfl, through⟩
  · rw [settled] at received left
    rw [received, left]
    exact ⟨rfl, rfl, rfl, rfl, rfl, through⟩

/-- The same comes of a frame on two interfaces that differ at most in the receive
ring, and they differ no more afterwards. -/
theorem Resting.alike_delivery (resting : one.Resting) (otherResting : other.Resting)
    (alike : SendsAlike one other) (frame : Bytes) :
    other.receipt frame = one.receipt frame ∧
      SendsAlike (one.after [.inject frame, .poll]) (other.after [.inject frame, .poll]) := by
  obtain ⟨traffic, carries, -, empty⟩ := resting.sound.at_rest resting.idle
  obtain ⟨otherTraffic, otherCarries, -, otherEmpty⟩ :=
    otherResting.sound.at_rest otherResting.idle
  obtain ⟨-, onRelayed⟩ := relayed_sendsAlike carries empty frame
  have through := relayed_congr alike.nic carries empty otherCarries otherEmpty frame
  have same : other.handling (.arriving frame) = one.handling (.arriving frame) := by
    rw [alike.eq, handling_nic]
  have memory : other.memory = one.memory := by
    rw [alike.eq]
    rfl
  obtain ⟨received, left, -⟩ := resting.delivery frame
  obtain ⟨otherReceived, otherLeft, -⟩ := otherResting.delivery frame
  rw [same] at otherReceived otherLeft
  rw [received, otherReceived, left, otherLeft, memory]
  exact ⟨rfl, alike.config, rfl, rfl, rfl, Handling.leaving_congr through onRelayed _⟩

/-! ## Runs -/

/-- Of frames that are delivered one by one, some strange ones are left out: which are
kept, and what comes of these while the others arrive as well. -/
inductive Erases (index : Fin Tcp.poolSize) :
    Interface → List Bytes → List Bytes → List Receipt → Prop where
  | done (interface : Interface) : Erases index interface [] [] []
  | keeps {interface : Interface} (frame : Bytes) {frames kept : List Bytes}
      {receipts : List Receipt}
      (rest : Erases index (interface.after [.inject frame, .poll]) frames kept receipts) :
      Erases index interface (frame :: frames) (frame :: kept)
        (interface.receipt frame :: receipts)
  | erases {interface : Interface} {frame : Bytes} {frames kept : List Bytes}
      {receipts : List Receipt} (strange : interface.Strange index frame)
      (rest : Erases index (interface.after [.inject frame, .poll]) frames kept receipts) :
      Erases index interface (frame :: frames) kept receipts

/-- Nothing else changes when strange frames are left out, but the receive ring. -/
theorem Erases.unnoticed {frames kept : List Bytes} {receipts : List Receipt}
    (erases : Erases index one frames kept receipts) (resting : one.Resting)
    (otherResting : other.Resting) (alike : SendsAlike one other) :
    other.receipts kept = receipts ∧
      (one.receipts frames).flatMap Receipt.sent = receipts.flatMap Receipt.sent ∧
      SendsAlike (one.after (deliveries frames)) (other.after (deliveries kept)) := by
  -- The run of the one interface is the longer of the two.
  induction erases generalizing other with
  | done interface => exact ⟨rfl, rfl, alike⟩
  | keeps frame rest inductiveHypothesis =>
      obtain ⟨received, alikeLater⟩ := resting.alike_delivery otherResting alike frame
      obtain ⟨receipts, sent, alikeLast⟩ := inductiveHypothesis (resting.after_delivery frame)
        (otherResting.after_delivery frame) alikeLater
      refine ⟨?_, ?_, alikeLast⟩
      · rw [Interface.receipts, received, receipts]
      · rw [Interface.receipts, List.flatMap_cons, List.flatMap_cons, sent]
  | @erases interface frame frames kept receipts strange rest inductiveHypothesis =>
      obtain ⟨silent, unchanged⟩ := resting.strange_delivery strange
      obtain ⟨received, sent, alikeLast⟩ := inductiveHypothesis (resting.after_delivery frame)
        otherResting (unchanged.symm.trans alike)
      refine ⟨received, ?_, alikeLast⟩
      rw [Interface.receipts, List.flatMap_cons, silent, List.nil_append, sent]

end Interface

namespace Setup

/-- Other traffic cannot disturb a connection.  Let frames arrive on a running adapter
that was just attached, each polled before the next one arrives, and take any channel.
A frame that arrives while the channel serves a peer, and that is not a segment to its
port from the address of that peer, leaves the channel as it is, and makes nothing be
sent from its port.  And of the frames that are addressed to its port, those that
arrive while it serves somebody else can be left out: the same comes of every other
frame, the same frames are sent, and in the end at most the receive ring differs. -/
theorem strangers_leave_no_trace (setup : Setup) (running : setup.automatic = true)
    (index : Fin Tcp.poolSize) :
    (∀ (frames : List Bytes) (frame : Bytes),
      let reached := setup.start.after (Interface.deliveries frames)
      (reached.pool.get index).state ≠ .listen → ¬reached.FromPeer index frame →
        (reached.after [.inject frame, .poll]).pool.get index = reached.pool.get index ∧
          ∀ sent ∈ reached.emissions [.inject frame, .poll],
            Tcp.sender? sent ≠ some (Tcp.Pool.localPort index)) ∧
    ∀ (frames kept : List Bytes) (receipts : List Interface.Receipt),
      setup.start.Erases index frames kept receipts →
        setup.start.receipts kept = receipts ∧
          setup.start.emissions (Interface.deliveries kept) =
            setup.start.emissions (Interface.deliveries frames) ∧
          (setup.start.after (Interface.deliveries frames)).SendsAlike
            (setup.start.after (Interface.deliveries kept)) := by
  have resting := setup.resting_start running
  constructor
  · intro frames frame reached serving apart
    exact (resting.after_deliveries frames).apart_delivery serving apart
  · intro frames kept receipts erases
    obtain ⟨received, sent, alike⟩ :=
      erases.unnoticed resting resting (.refl resting.sound)
    refine ⟨received, ?_, alike⟩
    rw [Interface.emissions_deliveries, Interface.emissions_deliveries, received, sent]

/-- A frame in which another station guesses the numbers that the web channel waits for
once a client opened a connection to it. -/
def intrusion : Bytes :=
  Tcp.Message.frame
    { source := ⟨⟨10, 0, 2, 3⟩, 51000⟩
      destination := ⟨⟨10, 0, 2, 15⟩, 80⟩
      flags := .ack
      sequence := 1001
      acknowledgment := 1001
      payload := [] }
    (Setup.default true).start

theorem strangers_leave_no_trace_at_intrusion :
    let start := (Setup.default true).start
    let opened := start.after (Interface.deliveries [openingTo 80])
    let receipts := [start.receipt (openingTo 80)]
    (opened.pool.get Tcp.Pool.web).state ≠ .listen ∧
      ¬opened.FromPeer Tcp.Pool.web intrusion ∧
      (opened.after [.inject intrusion, .poll]).pool.get Tcp.Pool.web =
        opened.pool.get Tcp.Pool.web ∧
      start.Erases Tcp.Pool.web [openingTo 80, intrusion] [openingTo 80] receipts ∧
      start.receipts [openingTo 80] = receipts ∧
      (start.after (Interface.deliveries [openingTo 80, intrusion])).SendsAlike opened := by
  intro start opened receipts
  obtain ⟨-, channel⟩ := opened_web
  obtain ⟨segment, carried, source, destination, -⟩ :=
    Tcp.Message.arriving?_frame
      { source := ⟨⟨10, 0, 2, 3⟩, 51000⟩
        destination := ⟨⟨10, 0, 2, 15⟩, 80⟩
        flags := .ack
        sequence := 1001
        acknowledgment := 1001
        payload := [] }
      start (Nat.zero_le _)
  have serving : (opened.pool.get Tcp.Pool.web).state ≠ .listen := by
    rw [channel]
    decide
  have stranger : segment.sender ≠ (opened.pool.get Tcp.Pool.web).guest.address := by
    rw [channel, ← (Endpoint.mk.inj source).1]
    decide
  have strange : opened.Strange Tcp.Pool.web intrusion :=
    .of_segment serving carried destination.symm stranger
  have erases : start.Erases Tcp.Pool.web [openingTo 80, intrusion] [openingTo 80] receipts :=
    .keeps (openingTo 80) (.erases strange (.done _))
  obtain ⟨undisturbed, unnoticed⟩ :=
    strangers_leave_no_trace (Setup.default true) rfl Tcp.Pool.web
  obtain ⟨kept, -⟩ := undisturbed [openingTo 80] intrusion serving strange.apart
  obtain ⟨received, -, alike⟩ := unnoticed _ _ _ erases
  exact ⟨serving, strange.apart, kept, erases, received, alike⟩

end Setup

end NetStack
