/-
Module: NetStack.Proofs.Peers
Purpose: Which segments a channel heeds while it serves a peer, and whom it
  answers.
Main exports:
  Interface.Sound.handling_misfit, Interface.Sound.processSegment_misfit,
  Interface.processSegment_fromPort, Interface.Sound.processSegment_answers,
  Setup.peer_is_an_address, Setup.other_port_completes_handshake
-/
import NetStack.Proofs.Delivery

namespace NetStack

open Tcp (Segment Message)
open Interface (Operation)

/-!
A peer is known by its address.  The port that it opened the connection from is
written down with it, and is where the answers go, but nobody asks a later segment
which port it comes from.  So a channel is closed to other stations, and open to every
connection of the station that it serves.
-/

namespace Interface

variable {interface : Interface} {automatic : Bool} {index : Fin Tcp.poolSize}
  {segment : Segment}

/-- While a channel serves a peer, there is nothing to be done about a segment that does
not move the connection on. -/
theorem Sound.handling_misfit (sound : interface.Sound automatic)
    (serves : Tcp.Pool.localPort index = segment.header.destinationPort)
    (serving : (interface.pool.get index).state ≠ .listen)
    (misfit : ¬(interface.pool.get index).Fits segment) :
    (∃ failure, interface.handling (.segment segment) = .refuses failure) ∨
      interface.handling (.segment segment) = .settles interface.memory := by
  have found := (Tcp.Pool.find?_eq_some_iff sound.bound).mpr serves
  rw [handling, segmentHandling, found]
  dsimp only
  cases reacts : (interface.pool.get index).react (interface.pool.fresh index) segment with
  | error failure => exact .inl ⟨failure, rfl⟩
  | ok reaction =>
      have how := (Tcp.Channel.react_eq_ok_iff (sound.channels index).onLoop).mp reacts
      obtain ⟨events, rfl⟩ := (how.settled_or_fits serving).resolve_right misfit
      right
      show Handling.settles (interface.reacted index (interface.pool.get index) _) = _
      rw [reacted, Tcp.Pool.set_get]
      rfl

/-- Such a segment changes nothing at all. -/
theorem Sound.processSegment_misfit (sound : interface.Sound automatic)
    (serves : Tcp.Pool.localPort index = segment.header.destinationPort)
    (serving : (interface.pool.get index).state ≠ .listen)
    (misfit : ¬(interface.pool.get index).Fits segment) :
    ((processSegment segment).outcome interface).2 = interface := by
  obtain ⟨traffic, carries, -⟩ := sound.wired
  rw [outcome_processSegment_handling carries]
  rcases sound.handling_misfit serves serving misfit with ⟨failure, refused⟩ | settled
  · rw [refused]
    rfl
  · rw [settled]
    rfl

/-- While a channel serves a peer, it makes no difference which port a segment comes
from. -/
theorem processSegment_fromPort (bound : interface.pool.Bound interface.config.address)
    (serves : Tcp.Pool.localPort index = segment.header.destinationPort)
    (serving : (interface.pool.get index).state ≠ .listen) (port : UInt16) :
    (processSegment (segment.fromPort port)).outcome interface =
      (processSegment segment).outcome interface := by
  have found := (Tcp.Pool.find?_eq_some_iff bound).mpr serves
  have foundAgain : interface.pool.find? (segment.fromPort port).header.destinationPort =
      some index := found
  rw [outcome_processSegment, outcome_processSegment, found, foundAgain]
  dsimp only
  rw [outcome_stepChannel, outcome_stepChannel, Tcp.Channel.react_fromPort serving]
  rfl

/-- While a channel serves a peer, that peer stays, and whatever is sent for a segment
is one frame to that peer. -/
theorem Sound.processSegment_answers (sound : interface.Sound automatic)
    (serves : Tcp.Pool.localPort index = segment.header.destinationPort)
    (serving : (interface.pool.get index).state ≠ .listen) :
    let guest := (interface.pool.get index).guest
    let after := ((processSegment segment).outcome interface).2
    (after.pool.get index).guest = guest ∧
      (after.nic.outbox = interface.nic.outbox ∨
        ∃ frame message, after.nic.outbox = interface.nic.outbox ++ [frame] ∧
          Message.ofFrame? frame = some message ∧ message.destination = guest) := by
  intro guest after
  obtain ⟨traffic, carries, -⟩ := sound.wired
  have found := (Tcp.Pool.find?_eq_some_iff sound.bound).mpr serves
  cases reacts : (interface.pool.get index).react (interface.pool.fresh index) segment with
  | error failure =>
      have still : after = interface :=
        congrArg Prod.snd (processSegment_refused found reacts)
      rw [still]
      exact ⟨rfl, .inl rfl⟩
  | ok reaction =>
      have how := (Tcp.Channel.react_eq_ok_iff (sound.channels index).onLoop).mp reacts
      obtain ⟨kept, answers⟩ := how.guest_eq traffic.hasRoom serving
      obtain ⟨nic, identification, processed, onNic⟩ := processSegment_reacts carries found reacts
      have becomes : after = _ := congrArg Prod.snd processed
      rw [becomes]
      refine ⟨(congrArg Tcp.Channel.guest (Tcp.Pool.get_set_same _ _ _)).trans kept, ?_⟩
      dsimp only
      cases due : reaction.answer? with
      | none =>
          rw [answered, due] at onNic
          exact .inl (onNic.outbox.trans carries.outbox.symm)
      | some answer =>
          cases room : traffic.hasRoom with
          | false =>
              rw [answered_full _ _ room] at onNic
              exact .inl (onNic.outbox.trans carries.outbox.symm)
          | true =>
              have sent := interface.messageOfFrame?_segmentFrame reaction.staged answer.flags
                answer.payload
              exact .inr ⟨_, _, outbox_answered carries onNic due room, sent, answers⟩

end Interface

namespace Setup

/-- A channel serves the station that opened its connection, whichever of its ports the
segments come from.  Wherever a run has led, on a running adapter or a stalled one,
let a channel serve a peer.  A segment to its port changes nothing at all, and nothing
is sent for it, unless it comes from the address of that peer, acknowledges, and has
the numbers that come next, and closes as well if the connection has only to be closed.
The port that it comes from makes no difference.  And whatever the segment is, the peer
on record stays, and at most one frame is sent, to that peer. -/
theorem peer_is_an_address (setup : Setup) (operations : List Operation)
    (index : Fin Tcp.poolSize) (segment : Segment)
    (serving : ((setup.start.after operations).pool.get index).state ≠ .listen)
    (addressed : segment.header.destinationPort = Tcp.Pool.localPort index) :
    let reached := setup.start.after operations
    let channel := reached.pool.get index
    let done := (Interface.processSegment segment).outcome reached
    (segment.sender ≠ channel.guest.address ∨
        segment.header.flags.contains .ack = false ∨
        segment.header.sequence ≠ channel.acknowledgment ∨
        segment.header.acknowledgment ≠ channel.sequence ∨
        channel.state = .closeWait ∧ segment.header.flags.contains .fin = false →
      done.2 = reached) ∧
    (∀ port, (Interface.processSegment (segment.fromPort port)).outcome reached = done) ∧
    (done.2.pool.get index).guest = channel.guest ∧
    (done.2.nic.outbox = reached.nic.outbox ∨
      ∃ frame message, done.2.nic.outbox = reached.nic.outbox ++ [frame] ∧
        Message.ofFrame? frame = some message ∧ message.destination = channel.guest) := by
  intro reached channel done
  have sound : reached.Sound setup.automatic := (setup.sound_after operations).1
  refine ⟨fun differs => ?_, ?_, ?_⟩
  · refine sound.processSegment_misfit addressed.symm serving fun fits => ?_
    rcases differs with stranger | silent | other | other | ⟨closing, unfinished⟩
    · exact stranger fits.peer
    · exact absurd fits.acknowledges (Bool.eq_false_iff.mp silent)
    · exact other fits.next
    · exact other fits.acknowledged
    · exact absurd (fits.finished closing) (Bool.eq_false_iff.mp unfinished)
  · exact Interface.processSegment_fromPort sound.bound addressed.symm serving
  · exact sound.processSegment_answers addressed.symm serving

/-- A segment with the numbers that the web channel waits for once a client opened a
connection to it. -/
def confirmation (sender : Ipv4Address) (port : UInt16) : Segment where
  header := .outgoing port 80 1001 1001 .ack
  sender := sender
  payload := []

theorem peer_is_an_address_at_opening :
    let reached := (Setup.default true).start.after (Interface.deliveries [openingTo 80])
    (reached.pool.get Tcp.Pool.web).state = .synReceived ∧
      ((Interface.processSegment (confirmation ⟨10, 0, 2, 3⟩ 51000)).outcome reached).2 =
        reached := by
  intro reached
  obtain ⟨-, channel⟩ := opened_web
  have serving : (reached.pool.get Tcp.Pool.web).state ≠ .listen := by
    rw [channel]
    decide
  obtain ⟨unheard, -⟩ := peer_is_an_address (Setup.default true) _ Tcp.Pool.web
    (confirmation ⟨10, 0, 2, 3⟩ 51000) serving rfl
  refine ⟨by rw [channel], unheard (.inl ?_)⟩
  rw [channel]
  decide

/-- The client opens a connection from port 51000, and its port 51001 confirms it: the
segment is not from the endpoint on record, yet the connection stands, and an answer is
sent. -/
theorem other_port_completes_handshake :
    let reached := (Setup.default true).start.after (Interface.deliveries [openingTo 80])
    let channel := reached.pool.get Tcp.Pool.web
    let segment := confirmation ⟨10, 0, 2, 2⟩ 51001
    let done := (Interface.processSegment segment).outcome reached
    channel.state = .synReceived ∧ channel.guest = ⟨⟨10, 0, 2, 2⟩, 51000⟩ ∧
      segment.header.destinationPort = Tcp.Pool.localPort Tcp.Pool.web ∧
      (⟨segment.sender, segment.header.sourcePort⟩ : Endpoint) ≠ channel.guest ∧
      done.1 = .ok () ∧ (done.2.pool.get Tcp.Pool.web).state = .established ∧
      ∃ answer, done.2.nic.outbox = reached.nic.outbox ++ [answer] := by
  intro reached channel segment done
  obtain ⟨resting, opened⟩ := opened_web
  obtain ⟨traffic, carries, running, -⟩ := resting.sound.at_rest resting.idle
  have room : traffic.hasRoom = true := carries.prompt.hasRoom running
  have state : channel.state = .synReceived := congrArg Tcp.Channel.state opened
  have guest : channel.guest = ⟨⟨10, 0, 2, 2⟩, 51000⟩ := congrArg Tcp.Channel.guest opened
  have serves : reached.pool.find? segment.header.destinationPort = some Tcp.Pool.web :=
    (Tcp.Pool.find?_eq_some_iff resting.sound.bound).mpr rfl
  have expected : channel.expect segment .ack = .ok () :=
    Tcp.Channel.expect_eq_ok (show Tcp.Flags.ack.contains .ack = true by decide)
      (congrArg Endpoint.address guest).symm
      (congrArg Tcp.Channel.acknowledgment opened).symm
      (congrArg Tcp.Channel.sequence opened).symm
  have how : Tcp.Channel.Reacts channel segment _ := .establishes state expected
  obtain ⟨nic, identification, processed, onNic⟩ :=
    Interface.processSegment_reacts carries serves how.react_eq
  rw [room, Tcp.Reaction.verdict_true, Tcp.Reaction.channelAfter_true] at processed
  have becomes : done = _ := processed
  rw [becomes]
  refine ⟨state, guest, rfl, ?_, rfl, ?_, ?_⟩
  · rw [guest]
    decide
  · exact congrArg Tcp.Channel.state (Tcp.Pool.get_set_same _ _ _)
  · exact ⟨_, Interface.outbox_answered carries onNic rfl room⟩

end Setup

end NetStack
