/-
Module: NetStack.Proofs.History
Purpose: What a channel received and what it answers, in terms of the segments
  that were taken over a whole run.
Main exports:
  Interface.Turn.accepted, Interface.collected, Interface.opening?,
  Interface.Faithful, Interface.Sound.faithful_next, Setup.faithful_after,
  Setup.data_integrity
-/
import Mathlib.Data.List.DropRight
import NetStack.Proofs.Exchange

namespace NetStack

namespace Interface

open Tcp (Segment Reaction)

/-!
The history of a channel is kept by nobody: the channel has only a window and
two numbers.  It is read off the run instead.  A turn took a segment when one
arrived and the operation succeeded.  The bytes collected are the payloads of
the segments that were taken in the turns at the end of the run in which the
channel was established from the start, and the opening is the last segment that
was taken while the channel was listening.
-/

namespace Turn

/-- The segment to a port that was taken in the turn. -/
def accepted (turn : Turn) (port : UInt16) : Option Segment :=
  match turn.operation.result turn.before with
  | .ok () =>
      (turn.before.arrival turn.operation).filter fun segment =>
        segment.header.destinationPort == port
  | .error _ => none

/-- The state in which the turn found a channel. -/
def found (turn : Turn) (index : Fin Tcp.poolSize) : Tcp.State :=
  (turn.before.pool.get index).state

/-- The bytes that the turn brought to a channel. -/
def payload (turn : Turn) (index : Fin Tcp.poolSize) : Bytes :=
  match turn.accepted (Tcp.Pool.localPort index) with
  | some segment => segment.payload
  | none => []

variable {turn : Turn} {port : UInt16} {segment : Segment}

theorem accepted_of_no_arrival (missing : turn.before.arrival turn.operation = none) :
    turn.accepted port = none := by
  unfold accepted
  rw [missing]
  cases turn.operation.result turn.before <;> rfl

theorem accepted_of_error {failure : Failure}
    (answered : turn.operation.result turn.before = .error failure) :
    turn.accepted port = none := by
  unfold accepted
  rw [answered]

theorem accepted_of_other_port (arrives : turn.before.arrival turn.operation = some segment)
    (other : segment.header.destinationPort ≠ port) : turn.accepted port = none := by
  unfold accepted
  rw [arrives]
  cases turn.operation.result turn.before with
  | ok value => simp [Option.filter, other]
  | error failure => rfl

theorem accepted_of_ok (arrives : turn.before.arrival turn.operation = some segment)
    (answered : turn.operation.result turn.before = .ok ())
    (addressed : segment.header.destinationPort = port) : turn.accepted port = some segment := by
  unfold accepted
  rw [arrives, answered]
  simp [Option.filter, addressed]

end Turn

/-- The payloads taken since the channel was last established. -/
def collected (index : Fin Tcp.poolSize) (history : List Turn) : Bytes :=
  (history.rtakeWhile fun turn => decide (turn.found index = .established)).flatMap
    fun turn => turn.payload index

/-- The segment that opened the connection. -/
def opening? (index : Fin Tcp.poolSize) (history : List Turn) : Option Segment :=
  (history.filterMap fun turn =>
    if turn.found index = .listen then turn.accepted (Tcp.Pool.localPort index)
    else none).getLast?

theorem collected_concat_established {index : Fin Tcp.poolSize} {turn : Turn}
    (history : List Turn) (established : turn.found index = .established) :
    collected index (history ++ [turn]) = collected index history ++ turn.payload index := by
  simp [collected, established, List.flatMap_append]

theorem collected_concat_other {index : Fin Tcp.poolSize} {turn : Turn} (history : List Turn)
    (other : turn.found index ≠ .established) : collected index (history ++ [turn]) = [] := by
  simp [collected, other]

theorem opening?_concat_opens {index : Fin Tcp.poolSize} {turn : Turn} {segment : Segment}
    (history : List Turn) (listening : turn.found index = .listen)
    (taken : turn.accepted (Tcp.Pool.localPort index) = some segment) :
    opening? index (history ++ [turn]) = some segment := by
  simp [opening?, List.filterMap_append, listening, taken]

theorem opening?_concat_other {index : Fin Tcp.poolSize} {turn : Turn} (history : List Turn)
    (other : turn.found index ≠ .listen ∨ turn.accepted (Tcp.Pool.localPort index) = none) :
    opening? index (history ++ [turn]) = opening? index history := by
  have nothing : (if turn.found index = .listen then turn.accepted (Tcp.Pool.localPort index)
      else none) = none := by
    rcases other with elsewhere | untaken
    · exact if_neg elsewhere
    · rw [untaken, ite_self]
  simp [opening?, List.filterMap_append, nothing]

/-- A channel agrees with a history: it holds what was collected, and its peer
and its number are those of the opening. -/
structure Faithful (index : Fin Tcp.poolSize) (history : List Turn) (channel : Tcp.Channel) :
    Prop where
  received : channel.state = .established → channel.received = collected index history
  opened : channel.state = .synReceived ∨ channel.state = .established →
    ∃ opening, opening? index history = some opening ∧
      opening.header.flags.contains .syn = true ∧
      channel.guest = ⟨opening.sender, opening.header.sourcePort⟩ ∧
      channel.sequence = opening.header.sequence + 1

namespace Faithful

variable {index : Fin Tcp.poolSize} {history : List Turn} {channel : Tcp.Channel} {turn : Turn}

/-- A turn that takes nothing for a channel, and leaves it what it received and
with whom, keeps the agreement. -/
theorem untaken (faithful : Faithful index history channel)
    (met : turn.found index = channel.state)
    (untaken : turn.accepted (Tcp.Pool.localPort index) = none) {later : Tcp.Channel}
    (sameState : later.state = channel.state) (sameReceived : later.received = channel.received)
    (sameGuest : later.guest = channel.guest) (sameSequence : later.sequence = channel.sequence) :
    Faithful index (history ++ [turn]) later where
  received := by
    intro established
    rw [sameState] at established
    have nothing : turn.payload index = [] := by
      rw [Turn.payload, untaken]
    rw [collected_concat_established history (met.trans established), nothing, List.append_nil,
      sameReceived]
    exact faithful.received established
  opened := by
    intro open_
    rw [sameState] at open_
    rw [opening?_concat_other history (.inr untaken), sameGuest, sameSequence]
    exact faithful.opened open_

/-- A channel that is neither open nor opening has nothing to agree on. -/
theorem elsewhere (closed : channel.state = .listen ∨ channel.state = .closeWait) :
    Faithful index history channel where
  received := by
    intro established
    rw [established] at closed
    rcases closed with listening | closing <;> contradiction
  opened := by
    intro open_
    rcases closed with listening | closing
    · rw [listening] at open_
      rcases open_ with opening | established <;> contradiction
    · rw [closing] at open_
      rcases open_ with opening | established <;> contradiction

/-- A turn in which an established channel adds the payload of the segment that
was taken keeps the agreement. -/
theorem grows (faithful : Faithful index history channel) (waiting : channel.state = .established)
    (met : turn.found index = channel.state) {segment : Segment}
    (taken : turn.accepted (Tcp.Pool.localPort index) = some segment) {later : Tcp.Channel}
    (sameState : later.state = channel.state)
    (longer : later.received = channel.received ++ segment.payload)
    (sameGuest : later.guest = channel.guest) (sameSequence : later.sequence = channel.sequence) :
    Faithful index (history ++ [turn]) later where
  received := by
    intro _
    have brings : turn.payload index = segment.payload := by
      rw [Turn.payload, taken]
    rw [longer, faithful.received waiting,
      collected_concat_established history (met.trans waiting), brings]
  opened := by
    intro open_
    rw [sameState] at open_
    have unopened : turn.found index ≠ .listen := by
      rw [met, waiting]
      decide
    rw [opening?_concat_other history (.inl unopened), sameGuest, sameSequence]
    exact faithful.opened open_

/-- A turn that opens a listening channel starts the agreement. -/
theorem opens {segment : Segment} (met : turn.found index = .listen)
    (taken : turn.accepted (Tcp.Pool.localPort index) = some segment) {later : Tcp.Channel}
    (syn : segment.header.flags.contains .syn = true) (opening : later.state = .synReceived)
    (guest : later.guest = ⟨segment.sender, segment.header.sourcePort⟩)
    (sequence : later.sequence = segment.header.sequence + 1) :
    Faithful index (history ++ [turn]) later where
  received := by
    intro established
    rw [opening] at established
    cases established
  opened := fun _ => ⟨segment, opening?_concat_opens history met taken, syn, guest, sequence⟩

/-- A turn that confirms the opening finds nothing collected yet. -/
theorem establishes (faithful : Faithful index history channel)
    (waiting : channel.state = .synReceived) (empty : channel.received = [])
    (met : turn.found index = channel.state) {later : Tcp.Channel}
    (sameReceived : later.received = channel.received) (sameGuest : later.guest = channel.guest)
    (sameSequence : later.sequence = channel.sequence) :
    Faithful index (history ++ [turn]) later where
  received := by
    intro _
    have other : turn.found index ≠ .established := by
      rw [met, waiting]
      decide
    rw [sameReceived, empty, collected_concat_other history other]
  opened := by
    intro _
    have unopened : turn.found index ≠ .listen := by
      rw [met, waiting]
      decide
    rw [opening?_concat_other history (.inl unopened), sameGuest, sameSequence]
    exact faithful.opened (.inl waiting)

/-- A reaction of the channel keeps the agreement, whether there was room for its
answer or not. -/
theorem reacts (faithful : Faithful index history channel) (sound : channel.Sound)
    {segment : Segment} {reaction : Reaction}
    (how : Tcp.Channel.Reacts channel segment reaction) (room : Bool)
    (met : turn.found index = channel.state)
    (arrives : turn.before.arrival turn.operation = some segment)
    (addressed : segment.header.destinationPort = Tcp.Pool.localPort index)
    (answered : turn.operation.result turn.before = reaction.verdict room) :
    Faithful index (history ++ [turn]) (reaction.channelAfter room) := by
  have taken (succeeds : reaction.verdict room = .ok ()) :
      turn.accepted (Tcp.Pool.localPort index) = some segment :=
    Turn.accepted_of_ok arrives (answered.trans succeeds) addressed
  cases how with
  | opens waiting syn bare =>
      have opened := taken (by cases room <;> rfl)
      cases room <;> exact .opens (met.trans waiting) opened syn rfl rfl rfl
  | establishes waiting expected =>
      have empty : channel.received = [] := by
        rw [← List.length_eq_zero_iff, sound.length_received]
        exact sound.idle (by rw [waiting]; decide)
      cases room <;> exact faithful.establishes waiting empty met rfl rfl rfl
  | notes waiting expected appended unpushed bare =>
      obtain ⟨-, -, -, longer, -⟩ := Tcp.ReceiveWindow.append_eq_ok sound.sized appended
      exact faithful.grows waiting met (taken rfl) rfl longer rfl rfl
  | takes waiting expected appended unpushed loaded =>
      obtain ⟨-, -, -, longer, restored⟩ := Tcp.ReceiveWindow.append_eq_ok sound.sized appended
      cases room with
      | true => exact faithful.grows waiting met (taken rfl) rfl longer rfl rfl
      | false =>
          exact faithful.untaken met (Turn.accepted_of_error answered) rfl restored rfl rfl
  | answers waiting expected appended pushed =>
      obtain ⟨-, -, -, -, restored⟩ := Tcp.ReceiveWindow.append_eq_ok sound.sized appended
      cases room with
      | true => exact .elsewhere (.inr rfl)
      | false =>
          exact faithful.untaken met (Turn.accepted_of_error answered) rfl restored rfl rfl
  | awaits waiting acknowledges unfinished => exact .elsewhere (.inr waiting)
  | closes waiting acknowledges finished expected =>
      cases room <;> exact .elsewhere (.inl rfl)

end Faithful

/-- Every operation keeps every channel in agreement with the run so far. -/
theorem Sound.faithful_next {interface : Interface} {automatic : Bool}
    (sound : interface.Sound automatic) {index : Fin Tcp.poolSize} {history : List Turn}
    (faithful : Faithful index history (interface.pool.get index)) (operation : Operation) :
    Faithful index (history ++ [⟨interface, operation⟩])
      ((operation.next interface).pool.get index) := by
  cases sound.steps operation with
  | quiet missing undisturbed =>
      rw [undisturbed.pool]
      exact faithful.untaken rfl (Turn.accepted_of_no_arrival missing) rfl rfl rfl rfl
  | refused arrives answered undisturbed =>
      rw [undisturbed.pool]
      exact faithful.untaken rfl (Turn.accepted_of_error answered) rfl rfl rfl rfl
  | @reacts segment served _ _ _ _ _ carries arrives serves how answered becomes onNic =>
      rw [becomes]
      dsimp only
      rw [Tcp.Pool.get_set]
      split
      · next here =>
        subst here
        exact faithful.reacts (sound.channels served) how _ rfl arrives serves.symm answered
      · next elsewhere =>
        have other : segment.header.destinationPort ≠ Tcp.Pool.localPort index := by
          intro same
          exact elsewhere (Tcp.Pool.localPort_injective (serves.trans same))
        exact faithful.untaken rfl (Turn.accepted_of_other_port arrives other) rfl rfl rfl rfl

/-- An accepted push queues one frame: the response to everything that the channel
received, the push included. -/
theorem Sound.outbox_push {interface : Interface} {automatic : Bool}
    (sound : interface.Sound automatic) {index : Fin Tcp.poolSize} {operation : Operation}
    {push : Segment} (arrives : interface.arrival operation = some push)
    (addressed : push.header.destinationPort = Tcp.Pool.localPort index)
    (established : (interface.pool.get index).state = .established)
    (pushed : push.header.flags.contains .psh = true)
    (succeeds : operation.result interface = .ok ()) :
    let channel := interface.pool.get index
    let request := channel.received ++ push.payload
    ∃ frame,
      (operation.next interface).nic.outbox = interface.nic.outbox ++ [frame] ∧
      Tcp.Message.ofFrame? frame =
        some {
          source := channel.host
          destination := channel.guest
          flags := .ack ||| .psh ||| .fin
          sequence := channel.sequence
          acknowledgment := channel.sequence + UInt32.ofNat request.length
          payload := (Http.respond request (.zeros Tcp.maxPayload)).written } := by
  intro channel request
  have channelSound : channel.Sound := sound.channels index
  cases sound.steps operation with
  | quiet missing undisturbed =>
      rw [missing] at arrives
      cases arrives
  | refused otherArrives answered undisturbed =>
      rw [succeeds] at answered
      cases answered
  | @reacts segment served reaction traffic waiting nic _ carries otherArrives serves how answered
      becomes onNic =>
      rw [arrives] at otherArrives
      cases otherArrives
      obtain rfl := Tcp.Pool.localPort_injective (serves.trans addressed)
      obtain ⟨window, appended, rfl⟩ := how.of_push established pushed
      obtain ⟨-, -, -, longer, -⟩ := Tcp.ReceiveWindow.append_eq_ok channelSound.sized appended
      have room : traffic.hasRoom = true := by
        rw [succeeds] at answered
        cases room : traffic.hasRoom with
        | true => rfl
        | false =>
            rw [room] at answered
            cases answered
      let fed := channel.fed window push.payload.length
      have received : fed.received = request := longer
      have counted : fed.acknowledgment = channel.sequence + UInt32.ofNat request.length := by
        rw [List.length_append, channelSound.length_received, UInt32.ofNat_add, ← UInt32.add_assoc,
          ← channelSound.counted established]
        rfl
      have host : channel.host = ⟨interface.config.address, channel.host.port⟩ := by
        rw [sound.bound served]
      have due : (channel.answerRequest fed push.header.destinationPort).answer? = some {
          flags := .ack ||| .psh ||| .fin
          payload := (Http.respond fed.received (.zeros Tcp.maxPayload)).written
          loss := .undone { channel with window := window.truncate channel.window.fill } } := rfl
      have grown := outbox_answered carries onNic due room
      refine ⟨interface.segmentFrame fed (.ack ||| .psh ||| .fin)
        (Http.respond fed.received (.zeros Tcp.maxPayload)).written, ?_, ?_⟩
      · rw [becomes]
        exact grown
      · rw [messageOfFrame?_segmentFrame, Http.take_written_respond, received, counted, host]
        rfl

end Interface

namespace Setup

open Interface (Operation Faithful)

/-- After every run every channel agrees with the run. -/
theorem faithful_after (setup : Setup) (operations : List Operation) (index : Fin Tcp.poolSize) :
    Faithful index (setup.start.turns operations)
      ((setup.start.after operations).pool.get index) := by
  induction operations using List.reverseRecOn with
  | nil =>
      rw [Interface.after, pool_start, Tcp.Pool.get_listening]
      exact .elsewhere (.inl rfl)
  | append_singleton operations operation inductiveHypothesis =>
      rw [Interface.after_concat, Interface.turns_concat]
      exact (setup.sound_after operations).1.faithful_next inductiveHypothesis operation

/-- Whatever was received, refused, taken back or lost before: an established
channel holds the payloads of the segments that were taken since it was
established, in the order of their arrival, and nothing else.  And whenever it
takes a push, one frame leaves the stack that carries the response to all of
them, and numbers that count all of them from the number of the opening. -/
theorem data_integrity (setup : Setup) (operations : List Operation)
    (index : Fin Tcp.poolSize) :
    let history := setup.start.turns operations
    let reached := setup.start.after operations
    let channel := reached.pool.get index
    let collected := Interface.collected index history
    (channel.state = .established → channel.received = collected) ∧
      ∀ (operation : Operation) (push : Tcp.Segment),
        reached.arrival operation = some push →
        push.header.destinationPort = Tcp.Pool.localPort index →
        channel.state = .established →
        push.header.flags.contains .psh = true →
        operation.result reached = .ok () →
        ∃ opening frame,
          Interface.opening? index history = some opening ∧
          opening.header.flags.contains .syn = true ∧
          (operation.next reached).nic.outbox = reached.nic.outbox ++ [frame] ∧
          Tcp.Message.ofFrame? frame =
            some {
              source := ⟨setup.config.address, Tcp.Pool.localPort index⟩
              destination := ⟨opening.sender, opening.header.sourcePort⟩
              flags := .ack ||| .psh ||| .fin
              sequence := opening.header.sequence + 1
              acknowledgment :=
                opening.header.sequence + 1 +
                  UInt32.ofNat (collected.length + push.payload.length)
              payload :=
                (Http.respond (collected ++ push.payload) (.zeros Tcp.maxPayload)).written } := by
  intro history reached channel collected
  obtain ⟨sound, same⟩ := setup.sound_after operations
  have faithful := setup.faithful_after operations index
  refine ⟨faithful.received, ?_⟩
  intro operation push arrives addressed established pushed succeeds
  obtain ⟨opening, opened, syn, guest, sequence⟩ := faithful.opened (.inr established)
  obtain ⟨frame, left, message⟩ :=
    sound.outbox_push arrives addressed established pushed succeeds
  refine ⟨opening, frame, opened, syn, left, ?_⟩
  rw [message, faithful.received established, guest, sequence, sound.bound index, same,
    List.length_append]

/-- The push of the sample exchange, as a segment. -/
def samplePush : Tcp.Segment where
  header := Tcp.Header.outgoing 51000 80 12 0 (.ack ||| .psh)
  sender := ⟨10, 0, 2, 2⟩
  payload := sampleExchange.pushed

/-- After the data of the sample exchange its push is taken. -/
theorem push_accepted_after_upload :
    let start := (Setup.default true).start
    let frames := sampleExchange.upload.map fun message => message.frame start
    let reached := start.after (Interface.deliveries frames)
    (reached.pool.get Tcp.Pool.web).state = .established ∧
      (reached.pool.get Tcp.Pool.web).received = sampleExchange.chunks.flatten ∧
      Operation.result (.processSegment samplePush) reached = .ok () := by
  intro start frames reached
  have sound := (Setup.default true).sound_start
  have listening : (start.pool.get Tcp.Pool.web).state = .listen := by
    rw [pool_start, Tcp.Pool.get_listening]
    rfl
  have server : sampleExchange.server =
      ⟨start.config.address, Tcp.Pool.localPort Tcp.Pool.web⟩ := by
    rw [config_start]
    rfl
  have small : ∀ message ∈ sampleExchange.upload, message.payload.length ≤ Tcp.maxPayload := by
    decide
  have fits : ∀ frame ∈ frames, frame.length ≤ packetSize := by
    intro frame member
    obtain ⟨message, -, rfl⟩ := List.mem_map.mp member
    exact message.length_frame_le _
  obtain ⟨fed, dialogue, stands⟩ :=
    Exchange.uploads (sound.attentive (carries_start (Setup.default true)).receiveReady) server
      (sound.channels Tcp.Pool.web) listening (by decide) (by decide) fits
      (Tcp.Message.map_ofFrame?_frame start small)
  obtain rfl : reached = fed := dialogue.after_deliveries
  have payload : samplePush.payload = sampleExchange.pushed := rfl
  obtain ⟨window, appended, -⟩ := stands.appends payload (by decide)
  have how := Tcp.Channel.Reacts.answers stands.state
    (stands.expects rfl (by decide) (by decide) (by decide)) appended (by decide)
  obtain ⟨sent, carries⟩ := stands.attentive.idle
  have addressed : Tcp.Pool.localPort Tcp.Pool.web = samplePush.header.destinationPort := rfl
  have serves := (Tcp.Pool.find?_eq_some_iff stands.attentive.bound).mpr addressed
  obtain ⟨nic, identification, processed, -⟩ :=
    Interface.processSegment_reacts carries serves how.react_eq
  refine ⟨stands.state, stands.received, ?_⟩
  have room : Traffic.hasRoom { automatic := true, waiting := [], pending := [], sent } = true :=
    rfl
  rw [Operation.result, Interface.perform, processed, room, Tcp.Reaction.verdict_true]

theorem data_integrity_at_push :
    let start := (Setup.default true).start
    let frames := sampleExchange.upload.map fun message => message.frame start
    let reached := start.after (Interface.deliveries frames)
    ∃ frame message,
      (Operation.next (.processSegment samplePush) reached).nic.outbox =
        reached.nic.outbox ++ [frame] ∧
      Tcp.Message.ofFrame? frame = some message ∧ message.payload = sampleExchange.reply := by
  intro start frames reached
  obtain ⟨established, received, accepted⟩ := push_accepted_after_upload
  obtain ⟨holds, answers⟩ :=
    data_integrity (Setup.default true) (Interface.deliveries frames) Tcp.Pool.web
  obtain ⟨opening, frame, -, -, left, message⟩ :=
    answers (.processSegment samplePush) samplePush rfl rfl established (by decide) accepted
  refine ⟨frame, _, left, message, ?_⟩
  rw [← holds established, received, Exchange.reply, Exchange.request, samplePush]

end Setup

end NetStack
