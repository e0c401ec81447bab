/-
Module: NetStack.Proofs.Closing
Purpose: From wherever a channel stands, its peer can bring the connection to an end,
  after which the channel is open to anybody again.
Main exports:
  Tcp.State.wayBack, Tcp.Channel.Awaits, Tcp.Channel.Sound.goes_on,
  Interface.GoesOn, Interface.exists_goesOn, Interface.GoesOn.closes,
  Setup.every_connection_ends
-/
import NetStack.Proofs.Delivery

namespace NetStack

open Tcp (Segment Flags)
open Interface (Operation)

/-!
A channel has no state to get stuck in.  Whatever happened before, it tells by its two
numbers which segment of its peer it takes next, and each segment with these numbers
and the flags that are due leads one step along the loop.  A push may find the window
as full as it can get, but an empty one needs no more than the byte that a window
always keeps free.
-/

namespace Tcp

/-- The flags of the segments that lead from a state back to listening, in order. -/
def State.wayBack : State → List Flags
  | .synReceived => [.ack, .ack ||| .psh, .ack ||| .fin]
  | .established => [.ack ||| .psh, .ack ||| .fin]
  | .closeWait => [.ack ||| .fin]
  | _ => []

theorem State.length_wayBack_le (state : State) : state.wayBack.length ≤ 3 := by
  cases state <;> decide

/-- On the loop, only a listening channel has no way to go. -/
theorem State.eq_listen_of_wayBack {state : State} (onLoop : state ∈ State.loop)
    (back : state.wayBack = []) : state = .listen := by
  cases state with
  | listen => rfl
  | synReceived => cases back
  | established => cases back
  | closeWait => cases back
  | _ => simp [State.loop] at onLoop

namespace Channel

variable {channel : Channel} {segment : Segment} {flags : Flags} {more : List Flags}

/-- A segment with these flags that goes on where a channel stands: it comes from the
address of the peer and has the numbers that are next.  If it pushes, it brings no
data. -/
structure Awaits (channel : Channel) (flags : Flags) (segment : Segment) : Prop where
  flagged : segment.header.flags = flags
  peer : segment.sender = channel.guest.address
  next : segment.header.sequence = channel.acknowledgment
  acknowledged : segment.header.acknowledgment = channel.sequence
  bare : flags.contains .psh = true → segment.payload = []

theorem Awaits.expect (awaits : channel.Awaits flags segment) {required : Flags}
    (contained : flags.contains required = true) : channel.expect segment required = .ok () :=
  expect_eq_ok (awaits.flagged ▸ contained) awaits.peer awaits.next awaits.acknowledged

/-- A segment that a sound channel awaits leads one step back. -/
theorem Sound.goes_on (sound : channel.Sound) (back : channel.state.wayBack = flags :: more)
    (awaits : channel.Awaits flags segment) :
    ∃ reaction, channel.Reacts segment reaction ∧ reaction.next.state.wayBack = more := by
  have onLoop := sound.onLoop
  cases state : channel.state with
  | listen =>
      rw [state] at back
      cases back
  | synReceived =>
      rw [state] at back
      cases back
      exact ⟨_, .establishes state (awaits.expect (by decide)), rfl⟩
  | established =>
      rw [state] at back
      cases back
      -- The window keeps a byte free, so an empty payload always fits.
      have room : channel.window.fill + segment.payload.length < windowSize := by
        rw [awaits.bare (by decide), List.length_nil, Nat.add_zero]
        exact sound.short
      obtain ⟨window, appended, -⟩ := ReceiveWindow.append_fits sound.sized room
      have pushed : segment.header.flags.contains .psh = true := by
        rw [awaits.flagged]
        decide
      exact ⟨_, .answers state (awaits.expect (by decide)) appended pushed, rfl⟩
  | closeWait =>
      rw [state] at back
      cases back
      have acknowledges : segment.header.flags.contains .ack = true := by
        rw [awaits.flagged]
        decide
      have finished : segment.header.flags.contains .fin = true := by
        rw [awaits.flagged]
        decide
      exact ⟨_, .closes state acknowledges finished (awaits.expect (by decide)), rfl⟩
  | _ => simp [state, State.loop] at onLoop

end Channel

end Tcp

namespace Interface

variable {interface : Interface} {index : Fin Tcp.poolSize}

/-! ## Frame by frame -/

/-- Frames that arrive one by one, and carry segments with these flags to the port of a
channel, each of which goes on where the channel stands by then. -/
inductive GoesOn (index : Fin Tcp.poolSize) : Interface → List Flags → List Bytes → Prop where
  | done (interface : Interface) : GoesOn index interface [] []
  | step {interface : Interface} {flags : Flags} {more : List Flags} {frame : Bytes}
      {frames : List Bytes} {segment : Segment}
      (carried : Segment.arriving? frame = some segment)
      (addressed : segment.header.destinationPort = Tcp.Pool.localPort index)
      (awaits : (interface.pool.get index).Awaits flags segment)
      (rest : GoesOn index (interface.after [.inject frame, .poll]) more frames) :
      GoesOn index interface (flags :: more) (frame :: frames)

/-- The peer can always go on: it can tell which numbers are next. -/
theorem exists_goesOn (interface : Interface) (index : Fin Tcp.poolSize) (flags : List Flags) :
    ∃ frames, GoesOn index interface flags frames := by
  induction flags generalizing interface with
  | nil => exact ⟨[], .done interface⟩
  | cons flags more inductiveHypothesis =>
      let channel := interface.pool.get index
      obtain ⟨segment, carried, source, destination, flagged, next, acknowledged, payload⟩ :=
        Tcp.Message.arriving?_frame
          { source := channel.guest
            destination := ⟨channel.host.address, Tcp.Pool.localPort index⟩
            flags := flags
            sequence := channel.acknowledgment
            acknowledgment := channel.sequence
            payload := [] }
          interface (Nat.zero_le _)
      have awaits : channel.Awaits flags segment :=
        ⟨flagged.symm, (congrArg Endpoint.address source).symm, next.symm, acknowledged.symm,
          fun _ => payload.symm⟩
      obtain ⟨frames, rest⟩ := inductiveHypothesis _
      exact ⟨_, .step carried destination.symm awaits rest⟩

/-- Frames that go on all the way back are taken, all of them, and leave the channel
listening. -/
theorem GoesOn.closes {flags : List Flags} {frames : List Bytes}
    (goesOn : GoesOn index interface flags frames) (resting : interface.Resting)
    (back : (interface.pool.get index).state.wayBack = flags) :
    (∀ receipt ∈ interface.receipts frames,
      receipt.accepted = .ok true ∧
        receipt.answer = .ok (receipt.frame.take packetSize).length) ∧
      ((interface.after (deliveries frames)).pool.get index).state = .listen := by
  induction goesOn with
  | done interface =>
      have onLoop := (resting.sound.channels index).onLoop
      exact ⟨fun _ member => absurd member List.not_mem_nil,
        Tcp.State.eq_listen_of_wayBack onLoop back⟩
  | @step interface flags more frame frames segment carried addressed awaits rest
      inductiveHypothesis =>
      obtain ⟨reaction, how, left⟩ := (resting.sound.channels index).goes_on back awaits
      obtain ⟨accepted, answered, becomes⟩ := resting.reacts carried addressed.symm how
      have backAfter : ((interface.after [.inject frame, .poll]).pool.get index).state.wayBack =
          more := by
        rw [becomes, Tcp.Pool.get_set_same, left]
      obtain ⟨later, last⟩ := inductiveHypothesis (resting.after_delivery frame) backAfter
      refine ⟨?_, last⟩
      rw [receipts]
      intro receipt member
      rcases List.mem_cons.mp member with rfl | member
      · exact ⟨accepted, answered⟩
      · exact later receipt member

end Interface

namespace Setup

/-- No channel has a dead state.  Wherever a run has led on a running adapter, if no
frame waits, at most three segments lead any channel back to listening: its peer can
send them, and whenever they arrive, with the flags that are due, the numbers that are
next and no data in the push, all of them are accepted and taken.  After that the
channel is open to anybody who sends a SYN. -/
theorem every_connection_ends (setup : Setup) (running : setup.automatic = true)
    (operations : List Operation)
    (idle : (setup.start.after operations).nic.receiveReady = false)
    (index : Fin Tcp.poolSize) :
    let reached := setup.start.after operations
    let flags := (reached.pool.get index).state.wayBack
    flags.length ≤ 3 ∧
      (∃ frames, Interface.GoesOn index reached flags frames) ∧
      ∀ frames, Interface.GoesOn index reached flags frames →
        let closed := reached.after (Interface.deliveries frames)
        (∀ receipt ∈ reached.receipts frames,
          receipt.accepted = .ok true ∧
            receipt.answer = .ok (receipt.frame.take packetSize).length) ∧
        (closed.pool.get index).state = .listen ∧
        ∀ (frame : Bytes) (segment : Segment), Segment.arriving? frame = some segment →
          segment.header.destinationPort = Tcp.Pool.localPort index →
          segment.header.flags.contains .syn = true →
          segment.header.flags.contains .ack = false →
          let opened := (closed.after [.inject frame, .poll]).pool.get index
          (closed.receipt frame).accepted = .ok true ∧
            (closed.receipt frame).answer = .ok (frame.take packetSize).length ∧
            opened.state = .synReceived ∧
            opened.guest = ⟨segment.sender, segment.header.sourcePort⟩ := by
  intro reached flags
  have resting : reached.Resting := setup.resting_after running operations idle
  refine ⟨Tcp.State.length_wayBack_le _, Interface.exists_goesOn reached index flags, ?_⟩
  intro frames goesOn closed
  obtain ⟨taken, listening⟩ := goesOn.closes resting rfl
  refine ⟨taken, listening, ?_⟩
  intro frame segment carried addressed syn bare opened
  have restingClosed : closed.Resting := resting.after_deliveries frames
  obtain ⟨accepted, answered, becomes⟩ :=
    restingClosed.takes_syn carried addressed.symm listening syn bare
  have last : opened = _ := becomes
  rw [last]
  exact ⟨accepted, answered, rfl, rfl⟩

theorem every_connection_ends_after_opening :
    let reached := (Setup.default true).start.after (Interface.deliveries [openingTo 80])
    reached.nic.receiveReady = false ∧
      (reached.pool.get Tcp.Pool.web).state = .synReceived ∧
      ∃ frames,
        Interface.GoesOn Tcp.Pool.web reached [.ack, .ack ||| .psh, .ack ||| .fin] frames ∧
          ((reached.after (Interface.deliveries frames)).pool.get Tcp.Pool.web).state =
            .listen := by
  intro reached
  obtain ⟨resting, opened⟩ := opened_web
  have state : (reached.pool.get Tcp.Pool.web).state = .synReceived :=
    congrArg Tcp.Channel.state opened
  obtain ⟨-, ⟨frames, goesOn⟩, closes⟩ :=
    every_connection_ends (Setup.default true) rfl _ resting.idle Tcp.Pool.web
  obtain ⟨-, listening, -⟩ := closes frames goesOn
  have due : Interface.GoesOn Tcp.Pool.web reached (reached.pool.get Tcp.Pool.web).state.wayBack
      frames := goesOn
  rw [state] at due
  exact ⟨resting.idle, state, frames, due, listening⟩

end Setup

end NetStack
