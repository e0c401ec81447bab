/-
Module: NetStack.Proofs.Tcp.Channel
Purpose: What a segment can bring about in a channel, and the invariant that
  ties a channel's numbers to what it received.
Main exports:
  Tcp.State.Follows, Tcp.Channel.Sound, Tcp.Channel.Reacts,
  Tcp.Channel.react_eq_ok_iff, Tcp.Channel.Fits,
  Tcp.Channel.Reacts.settled_or_fits, Tcp.Reaction.channelAfter,
  Tcp.Channel.Reacts.sound, Tcp.Channel.Reacts.progress
-/
import NetStack.Tcp.Reaction

namespace NetStack.Tcp

/-- The same segment from another port of its sender. -/
def Segment.fromPort (segment : Segment) (port : UInt16) : Segment :=
  { segment with header := { segment.header with sourcePort := port } }

/-! ## Windows -/

namespace ReceiveWindow

variable {window : ReceiveWindow} {payload : Bytes}

/-- A payload that leaves a byte free is added behind what was received. -/
theorem append_fits (sized : window.cells.length = windowSize)
    (room : window.fill + payload.length < windowSize) :
    ∃ longer, window.append payload = .ok longer ∧
      longer.cells.length = windowSize ∧ longer.fill = window.fill + payload.length ∧
      longer.received = window.received ++ payload ∧
      (longer.truncate window.fill).received = window.received := by
  have fits : window.fill + payload.length ≤ window.cells.length := by omega
  have inside : (window.cells.take window.fill).length = window.fill := by
    rw [List.length_take]
    omega
  refine ⟨⟨window.cells.take window.fill ++ payload ++
      window.cells.drop (window.fill + payload.length), window.fill + payload.length⟩,
    ?_, ?_, rfl, ?_, ?_⟩
  · unfold append
    rw [if_neg (Nat.not_le.mpr room), Bytes.splice_eq_ok fits]
  · simp only [List.length_append, List.length_take, List.length_drop]
    omega
  · simp only [received]
    rw [List.take_left' (by rw [List.length_append, inside])]
  · simp only [received, truncate]
    rw [Nat.min_eq_right (Nat.le_add_right _ _), List.append_assoc, List.take_left' inside]

/-- Any other payload is refused. -/
theorem append_overflows (full : windowSize ≤ window.fill + payload.length) :
    window.append payload = .error (.refused .bufferOverflow) := by
  unfold append
  rw [if_pos full]

/-- What was appended was added behind what had been received. -/
theorem append_eq_ok {longer : ReceiveWindow} (sized : window.cells.length = windowSize)
    (appended : window.append payload = .ok longer) :
    window.fill + payload.length < windowSize ∧ longer.cells.length = windowSize ∧
      longer.fill = window.fill + payload.length ∧
      longer.received = window.received ++ payload ∧
      (longer.truncate window.fill).received = window.received := by
  by_cases room : window.fill + payload.length < windowSize
  · obtain ⟨other, fits, facts⟩ := append_fits sized room
    rw [appended] at fits
    cases fits
    exact ⟨room, facts⟩
  · rw [append_overflows (Nat.not_lt.mp room)] at appended
    cases appended

end ReceiveWindow

/-! ## Reactions and what becomes of the channel -/

/-- One state follows another on the loop of a channel. -/
inductive State.Follows : State → State → Prop where
  | opening : Follows .listen .synReceived
  | established : Follows .synReceived .established
  | closing : Follows .established .closeWait
  | closed : Follows .closeWait .listen

/-- The states that a channel goes through. -/
def State.loop : List State :=
  [.listen, .synReceived, .established, .closeWait]

/-- A step along the loop stays on it. -/
theorem State.Follows.mem_loop {first second : State} (follows : first.Follows second) :
    second ∈ State.loop := by
  cases follows <;> decide

namespace Reaction

/-- The channel once its answer was sent or found no room. -/
def channelAfter (reaction : Reaction) (room : Bool) : Channel :=
  match reaction.answer? with
  | none => reaction.next
  | some answer =>
      match room, answer.loss with
      | true, _ => reaction.next
      | false, .ignored => reaction.next
      | false, .undone restored => restored

/-- Whether the segment was taken, by whether there was room for its answer. -/
def verdict (reaction : Reaction) (room : Bool) : Except Failure Unit :=
  match reaction.answer? with
  | none => .ok ()
  | some answer =>
      match room, answer.loss with
      | true, _ => .ok ()
      | false, .ignored => .ok ()
      | false, .undone _ => .error (.refused .queueFull)

/-- With room for its answer, every reaction is carried out. -/
theorem channelAfter_true (reaction : Reaction) : reaction.channelAfter true = reaction.next := by
  unfold channelAfter
  cases reaction.answer? <;> rfl

theorem verdict_true (reaction : Reaction) : reaction.verdict true = .ok () := by
  unfold verdict
  cases reaction.answer? <;> rfl

end Reaction

namespace Channel

/-- A channel between two segments.  Its window holds something only while it is
established, and then its number of acknowledgment counts exactly that. -/
structure Sound (channel : Channel) : Prop where
  onLoop : channel.state ∈ State.loop
  sized : channel.window.cells.length = windowSize
  short : channel.window.fill < windowSize
  idle : channel.state ≠ .established → channel.window.fill = 0
  opening : channel.state = .synReceived → channel.sequence = channel.acknowledgment
  counted : channel.state = .established →
    channel.acknowledgment = channel.sequence + UInt32.ofNat channel.window.fill

theorem sound_listening (host guest : Endpoint) : (listening host guest).Sound where
  onLoop := List.mem_cons_self
  sized := Bytes.length_zeros windowSize
  short := show 0 < windowSize by decide
  idle := fun _ => rfl
  opening := fun waiting => by cases waiting
  counted := fun waiting => by cases waiting

/-- The fill mark of a sound channel is the number of bytes received. -/
theorem Sound.length_received {channel : Channel} (sound : channel.Sound) :
    channel.received.length = channel.window.fill := by
  have short := sound.short
  have sized := sound.sized
  simp only [received, ReceiveWindow.received, List.length_take]
  omega

/-- What a sound channel received can be read out of its window. -/
theorem Sound.slice_received {channel : Channel} (sound : channel.Sound) :
    Bytes.slice channel.window.cells 0 channel.window.fill = .ok channel.received := by
  have short := sound.short
  have sized := sound.sized
  exact Bytes.slice_eq_ok (Nat.zero_le _) (by omega)

/-- A listening channel after a SYN, with the numbers of its answer. -/
def greeted (channel : Channel) (segment : Segment) : Channel :=
  { channel with
    guest := ⟨segment.sender, segment.header.sourcePort⟩
    sequence := segment.header.sequence
    acknowledgment := segment.header.sequence + 1 }

/-- A channel whose window took a payload of `length` bytes. -/
def fed (channel : Channel) (window : ReceiveWindow) (length : Nat) : Channel :=
  { channel with
    window
    acknowledgment := channel.acknowledgment + UInt32.ofNat length }

/-- The reactions of a channel on its loop, one way to react for each
constructor. -/
inductive Reacts (channel : Channel) (segment : Segment) : Reaction → Prop where
  /-- A bare SYN opens the channel. -/
  | opens (waiting : channel.state = .listen)
      (syn : segment.header.flags.contains .syn = true)
      (bare : segment.header.flags.contains .ack = false) :
      Reacts channel segment
        (.control (channel.greeted segment) .syn
          { channel.greeted segment with
            sequence := segment.header.sequence + 1
            state := .synReceived }
          [.channelOpened segment.header.destinationPort
            ⟨segment.sender, segment.header.sourcePort⟩])
  /-- The peer confirms the opening. -/
  | establishes (waiting : channel.state = .synReceived)
      (expected : channel.expect segment .ack = .ok ()) :
      Reacts channel segment
        (.control channel .empty { channel with state := .established }
          [.channelEstablished segment.header.destinationPort])
  /-- A segment without data or push asks for nothing. -/
  | notes {window : ReceiveWindow} (waiting : channel.state = .established)
      (expected : channel.expect segment .ack = .ok ())
      (appended : channel.window.append segment.payload = .ok window)
      (unpushed : segment.header.flags.contains .psh = false)
      (bare : segment.payload = []) :
      Reacts channel segment (.settled (channel.fed window segment.payload.length) [])
  /-- Data is taken and acknowledged. -/
  | takes {window : ReceiveWindow} (waiting : channel.state = .established)
      (expected : channel.expect segment .ack = .ok ())
      (appended : channel.window.append segment.payload = .ok window)
      (unpushed : segment.header.flags.contains .psh = false)
      (loaded : segment.payload ≠ []) :
      Reacts channel segment {
        before := []
        staged := channel.fed window segment.payload.length
        answer? := some {
          flags := .ack
          payload := []
          loss := .undone { channel with window := window.truncate channel.window.fill } }
        next := channel.fed window segment.payload.length
        after := [] }
  /-- A push is answered with the response to everything received. -/
  | answers {window : ReceiveWindow} (waiting : channel.state = .established)
      (expected : channel.expect segment .ack = .ok ())
      (appended : channel.window.append segment.payload = .ok window)
      (pushed : segment.header.flags.contains .psh = true) :
      Reacts channel segment
        (channel.answerRequest (channel.fed window segment.payload.length)
          segment.header.destinationPort)
  /-- An acknowledgment while the peer has still to close. -/
  | awaits (waiting : channel.state = .closeWait)
      (acknowledges : segment.header.flags.contains .ack = true)
      (unfinished : segment.header.flags.contains .fin = false) :
      Reacts channel segment
        (.settled channel [.finAwaited segment.header.destinationPort])
  /-- The peer closes, and the channel listens again. -/
  | closes (waiting : channel.state = .closeWait)
      (acknowledges : segment.header.flags.contains .ack = true)
      (finished : segment.header.flags.contains .fin = true)
      (expected : channel.expect segment (.ack ||| .fin) = .ok ()) :
      Reacts channel segment
        (.control { channel with acknowledgment := channel.acknowledgment + 1 } .empty
          { channel with acknowledgment := channel.acknowledgment + 1, state := .listen }
          [.channelClosed segment.header.destinationPort])

variable {channel fresh : Channel} {segment : Segment} {reaction : Reaction}

theorem Reacts.of_accept (waiting : channel.state = .listen)
    (reacts : channel.accept segment = .ok reaction) : Reacts channel segment reaction := by
  unfold accept at reacts
  cases syn : segment.header.flags.contains .syn with
  | false => simp [syn] at reacts
  | true =>
      cases bare : segment.header.flags.contains .ack with
      | true => simp [syn, bare] at reacts
      | false =>
          simp only [syn, bare, Bool.not_true, Bool.or_self, Bool.false_eq_true, if_false] at reacts
          cases reacts
          exact .opens waiting syn bare

theorem Reacts.of_establish (waiting : channel.state = .synReceived)
    (reacts : channel.establish segment = .ok reaction) : Reacts channel segment reaction := by
  unfold establish at reacts
  cases expected : channel.expect segment .ack with
  | error cause =>
      rw [expected] at reacts
      cases reacts
  | ok value =>
      rw [expected] at reacts
      cases reacts
      exact .establishes waiting expected

theorem Reacts.of_collect (waiting : channel.state = .established)
    (reacts : channel.collect segment = .ok reaction) : Reacts channel segment reaction := by
  unfold collect at reacts
  cases expected : channel.expect segment .ack with
  | error cause =>
      rw [expected] at reacts
      cases reacts
  | ok value =>
      rw [expected] at reacts
      cases appended : channel.window.append segment.payload with
      | error failure =>
          rw [appended] at reacts
          cases reacts
      | ok window =>
          rw [appended] at reacts
          dsimp only at reacts
          cases pushed : segment.header.flags.contains .psh with
          | true =>
              rw [pushed, if_pos rfl] at reacts
              cases reacts
              exact .answers waiting expected appended pushed
          | false =>
              rw [pushed, if_neg Bool.false_ne_true] at reacts
              split at reacts
              · next bare =>
                cases reacts
                exact .notes waiting expected appended pushed (List.isEmpty_iff.mp bare)
              · next loaded =>
                cases reacts
                exact .takes waiting expected appended pushed fun bare =>
                  loaded (List.isEmpty_iff.mpr bare)

theorem Reacts.of_close (waiting : channel.state = .closeWait)
    (reacts : channel.close segment = .ok reaction) : Reacts channel segment reaction := by
  unfold close at reacts
  cases acknowledges : segment.header.flags.contains .ack with
  | false => simp [acknowledges] at reacts
  | true =>
      cases finished : segment.header.flags.contains .fin with
      | false =>
          simp only [acknowledges, finished, Bool.not_true, Bool.not_false, Bool.false_eq_true,
            if_false, if_true] at reacts
          cases reacts
          exact .awaits waiting acknowledges finished
      | true =>
          simp only [acknowledges, finished, Bool.not_true, Bool.false_eq_true, if_false] at reacts
          cases expected : channel.expect segment (.ack ||| .fin) with
          | error cause =>
              rw [expected] at reacts
              cases reacts
          | ok value =>
              rw [expected] at reacts
              cases reacts
              exact .closes waiting acknowledges finished expected

/-- Each listed reaction is the one that the channel has. -/
theorem Reacts.react_eq (reacts : Reacts channel segment reaction) :
    channel.react fresh segment = .ok reaction := by
  unfold react
  cases reacts with
  | opens waiting syn bare =>
      rw [waiting]
      simp [accept, syn, bare, greeted]
  | establishes waiting expected =>
      rw [waiting]
      simp only [establish, expected]
  | notes waiting expected appended unpushed bare =>
      rw [waiting]
      have empty : segment.payload.isEmpty = true := List.isEmpty_iff.mpr bare
      simp [collect, expected, appended, unpushed, empty, fed, waiting]
  | takes waiting expected appended unpushed loaded =>
      rw [waiting]
      simp [collect, expected, appended, unpushed, loaded, fed, waiting]
  | answers waiting expected appended pushed =>
      rw [waiting]
      simp only [collect, expected, appended, pushed, fed, if_true]
  | awaits waiting acknowledges unfinished =>
      rw [waiting]
      simp [close, acknowledges, unfinished]
  | closes waiting acknowledges finished expected =>
      rw [waiting]
      simp [close, acknowledges, finished, expected, waiting]

/-- On its loop a channel reacts in the ways that `Reacts` lists, and in no
others. -/
theorem react_eq_ok_iff (onLoop : channel.state ∈ State.loop) :
    channel.react fresh segment = .ok reaction ↔ Reacts channel segment reaction := by
  constructor
  · intro reacts
    unfold react at reacts
    cases waiting : channel.state with
    | listen =>
        rw [waiting] at reacts
        exact .of_accept waiting reacts
    | synReceived =>
        rw [waiting] at reacts
        exact .of_establish waiting reacts
    | established =>
        rw [waiting] at reacts
        exact .of_collect waiting reacts
    | closeWait =>
        rw [waiting] at reacts
        exact .of_close waiting reacts
    | _ => simp [waiting, State.loop] at onLoop
  · exact Reacts.react_eq

/-- On its loop a channel never falls back to its initial binding. -/
theorem react_fresh (onLoop : channel.state ∈ State.loop) (fresh other : Channel) :
    channel.react fresh segment = channel.react other segment := by
  unfold react
  cases waiting : channel.state with
  | closed => simp [waiting, State.loop] at onLoop
  | _ => rfl

/-- An established channel has one way to react to a push. -/
theorem Reacts.of_push (reacts : Reacts channel segment reaction)
    (established : channel.state = .established)
    (pushed : segment.header.flags.contains .psh = true) :
    ∃ window, channel.window.append segment.payload = .ok window ∧
      reaction = channel.answerRequest (channel.fed window segment.payload.length)
        segment.header.destinationPort := by
  cases reacts with
  | answers waiting expected appended pushed => exact ⟨_, appended, rfl⟩
  | notes waiting expected appended unpushed bare => rw [pushed] at unpushed; cases unpushed
  | takes waiting expected appended unpushed loaded => rw [pushed] at unpushed; cases unpushed
  | opens waiting syn bare => rw [established] at waiting; cases waiting
  | establishes waiting expected => rw [established] at waiting; cases waiting
  | awaits waiting acknowledges unfinished => rw [established] at waiting; cases waiting
  | closes waiting acknowledges finished expected => rw [established] at waiting; cases waiting

/-- Where the loss of an answer undoes a segment, data had arrived, and the
channel takes its bytes back. -/
theorem Reacts.of_undone {answer : Answer} {restored : Channel}
    (reacts : Reacts channel segment reaction) (due : reaction.answer? = some answer)
    (loss : answer.loss = .undone restored) :
    ∃ window, channel.window.append segment.payload = .ok window ∧
      restored = { channel with window := window.truncate channel.window.fill } := by
  cases reacts with
  | takes waiting expected appended unpushed loaded =>
      cases due
      cases loss
      exact ⟨_, appended, rfl⟩
  | answers waiting expected appended pushed =>
      cases due
      cases loss
      exact ⟨_, appended, rfl⟩
  | notes waiting expected appended unpushed bare => cases due
  | awaits waiting acknowledges unfinished => cases due
  | opens waiting syn bare => cases due; cases loss
  | establishes waiting expected => cases due; cases loss
  | closes waiting acknowledges finished expected => cases due; cases loss

/-- A segment from the peer that goes on where the exchange stands is expected. -/
theorem expect_eq_ok {required : Flags}
    (flagged : segment.header.flags.contains required = true)
    (peer : segment.sender = channel.guest.address)
    (next : segment.header.sequence = channel.acknowledgment)
    (acknowledged : segment.header.acknowledgment = channel.sequence) :
    channel.expect segment required = .ok () := by
  unfold expect continues
  simp [flagged, peer, next, acknowledged]

/-- What is expected has the flags, comes from the peer, and goes on where the
exchange stands. -/
theorem of_expect {required : Flags} (expected : channel.expect segment required = .ok ()) :
    segment.header.flags.contains required = true ∧
      segment.sender = channel.guest.address ∧
      segment.header.sequence = channel.acknowledgment ∧
      segment.header.acknowledgment = channel.sequence := by
  unfold expect at expected
  split at expected
  · cases expected
  · next flagged =>
    split at expected
    · cases expected
    · next peer =>
      split at expected
      · cases expected
      · next next =>
        rw [Bool.not_eq_true, Bool.not_eq_false', continues, Bool.and_eq_true, beq_iff_eq,
          beq_iff_eq] at next
        exact ⟨by simpa using flagged, Decidable.not_not.mp peer, next.1, next.2⟩

/-- A segment that moves a connection on: it comes from the address of the peer,
acknowledges what was sent, and goes on where the exchange stands.  At the end it says
that the peer closes, too. -/
structure Fits (channel : Channel) (segment : Segment) : Prop where
  peer : segment.sender = channel.guest.address
  acknowledges : segment.header.flags.contains .ack = true
  next : segment.header.sequence = channel.acknowledgment
  acknowledged : segment.header.acknowledgment = channel.sequence
  finished : channel.state = .closeWait → segment.header.flags.contains .fin = true

/-- While a channel serves a peer, no other segment changes it, or is answered. -/
theorem Reacts.settled_or_fits (reacts : Reacts channel segment reaction)
    (serving : channel.state ≠ .listen) :
    (∃ events, reaction = .settled channel events) ∨ channel.Fits segment := by
  have fits (expected : channel.expect segment .ack = .ok ())
      (finished : channel.state = .closeWait → segment.header.flags.contains .fin = true) :
      channel.Fits segment := by
    obtain ⟨acknowledges, peer, next, acknowledged⟩ := of_expect expected
    exact ⟨peer, acknowledges, next, acknowledged, finished⟩
  have unfinished {state : State} (waiting : channel.state = state)
      (other : state ≠ .closeWait) (closing : channel.state = .closeWait) :
      segment.header.flags.contains .fin = true :=
    absurd (waiting.symm.trans closing) other
  cases reacts with
  | opens waiting syn bare => exact absurd waiting serving
  | establishes waiting expected => exact .inr (fits expected (unfinished waiting (by decide)))
  | notes waiting expected appended unpushed bare =>
      exact .inr (fits expected (unfinished waiting (by decide)))
  | takes waiting expected appended unpushed loaded =>
      exact .inr (fits expected (unfinished waiting (by decide)))
  | answers waiting expected appended pushed =>
      exact .inr (fits expected (unfinished waiting (by decide)))
  | awaits waiting acknowledges unfinished => exact .inl ⟨_, rfl⟩
  | closes waiting acknowledges finished expected =>
      obtain ⟨-, peer, next, acknowledged⟩ := of_expect expected
      exact .inr ⟨peer, acknowledges, next, acknowledged, fun _ => finished⟩

/-- Only a listening channel looks at the port that a segment comes from. -/
theorem react_fromPort (serving : channel.state ≠ .listen) (port : UInt16) :
    channel.react fresh (segment.fromPort port) = channel.react fresh segment := by
  unfold react
  cases waiting : channel.state with
  | listen => exact absurd waiting serving
  | _ => rfl

/-! ## What every reaction preserves -/

variable (room : Bool)

namespace Reacts

/-- A channel stays bound to its local end. -/
theorem host_eq (reacts : Reacts channel segment reaction) :
    (reaction.channelAfter room).host = channel.host := by
  cases reacts <;> cases room <;> rfl

/-- An answer is sent from the local end of its channel. -/
theorem staged_host_eq (reacts : Reacts channel segment reaction) :
    reaction.staged.host = channel.host := by
  cases reacts <;> rfl

/-- While a channel serves a peer, that peer stays, and is who it answers. -/
theorem guest_eq (reacts : Reacts channel segment reaction) (serving : channel.state ≠ .listen) :
    (reaction.channelAfter room).guest = channel.guest ∧
      reaction.staged.guest = channel.guest := by
  cases reacts with
  | opens waiting syn bare => exact absurd waiting serving
  | _ => cases room <;> exact ⟨rfl, rfl⟩

/-- Whoever is answered is the peer that the channel serves from then on. -/
theorem next_guest_eq (reacts : Reacts channel segment reaction) :
    reaction.next.guest = reaction.staged.guest := by
  cases reacts <;> rfl

/-- A channel stays in its state or moves one step along its loop. -/
theorem progress (reacts : Reacts channel segment reaction) :
    (reaction.channelAfter room).state = channel.state ∨
      channel.state.Follows (reaction.channelAfter room).state := by
  cases reacts with
  | opens waiting syn bare =>
      right
      rw [waiting]
      cases room <;> exact .opening
  | establishes waiting expected =>
      right
      rw [waiting]
      cases room <;> exact .established
  | notes waiting expected appended unpushed bare =>
      left
      rfl
  | takes waiting expected appended unpushed loaded =>
      left
      cases room <;> rfl
  | answers waiting expected appended pushed =>
      cases room with
      | true =>
          right
          rw [waiting]
          exact .closing
      | false =>
          left
          rfl
  | awaits waiting acknowledges unfinished =>
      left
      rfl
  | closes waiting acknowledges finished expected =>
      right
      rw [waiting]
      cases room <;> exact .closed

end Reacts

/-- A channel whose window takes a payload keeps counting what it received. -/
theorem Sound.fed (sound : channel.Sound) (waiting : channel.state = .established)
    {window : ReceiveWindow} {payload : Bytes}
    (appended : channel.window.append payload = .ok window) :
    (channel.fed window payload.length).Sound := by
  obtain ⟨room, sized, filled, -, -⟩ := ReceiveWindow.append_eq_ok sound.sized appended
  constructor
  · exact sound.onLoop
  · exact sized
  · show window.fill < windowSize
    omega
  · intro other
    exact absurd waiting other
  · intro opening
    exact absurd (waiting.symm.trans opening) (by decide)
  · intro _
    show channel.acknowledgment + UInt32.ofNat payload.length =
      channel.sequence + UInt32.ofNat window.fill
    rw [sound.counted waiting, filled, UInt32.ofNat_add, UInt32.add_assoc]

/-- A channel that takes the bytes of a payload back has what it had before. -/
theorem Sound.restored (sound : channel.Sound) {window : ReceiveWindow} {payload : Bytes}
    (appended : channel.window.append payload = .ok window) :
    { channel with window := window.truncate channel.window.fill }.Sound := by
  obtain ⟨room, sized, filled, -, -⟩ := ReceiveWindow.append_eq_ok sound.sized appended
  have kept : (window.truncate channel.window.fill).fill = channel.window.fill := by
    show min window.fill channel.window.fill = channel.window.fill
    omega
  constructor
  · exact sound.onLoop
  · exact sized
  · rw [kept]
    exact sound.short
  · intro other
    rw [kept]
    exact sound.idle other
  · exact sound.opening
  · intro waiting
    rw [kept]
    exact sound.counted waiting

/-- What a staged channel received can be read out of its window too. -/
theorem Reacts.slice_staged (reacts : Reacts channel segment reaction) (sound : channel.Sound) :
    Bytes.slice reaction.staged.window.cells 0 reaction.staged.window.fill =
      .ok reaction.staged.received := by
  cases reacts with
  | opens waiting syn bare => exact sound.slice_received
  | establishes waiting expected => exact sound.slice_received
  | notes waiting expected appended unpushed bare =>
      exact (sound.fed waiting appended).slice_received
  | takes waiting expected appended unpushed loaded =>
      exact (sound.fed waiting appended).slice_received
  | answers waiting expected appended pushed => exact (sound.fed waiting appended).slice_received
  | awaits waiting acknowledges unfinished => exact sound.slice_received
  | closes waiting acknowledges finished expected => exact sound.slice_received

/-- The invariant survives every reaction, whether there was room for its answer
or not. -/
theorem Reacts.sound (reacts : Reacts channel segment reaction) (sound : channel.Sound) :
    (reaction.channelAfter room).Sound := by
  cases reacts with
  | opens waiting syn bare =>
      have empty : channel.window.fill = 0 := sound.idle (by rw [waiting]; decide)
      have opened : Sound
          { channel.greeted segment with
            sequence := segment.header.sequence + 1
            state := .synReceived } := {
        onLoop := State.Follows.opening.mem_loop
        sized := sound.sized
        short := sound.short
        idle := fun _ => empty
        opening := fun _ => rfl
        counted := fun established => by cases established }
      cases room <;> exact opened
  | establishes waiting expected =>
      have empty : channel.window.fill = 0 := sound.idle (by rw [waiting]; decide)
      have established : Sound { channel with state := .established } := {
        onLoop := State.Follows.established.mem_loop
        sized := sound.sized
        short := sound.short
        idle := fun other => absurd rfl other
        opening := fun opening => by cases opening
        counted := fun _ => by
          show channel.acknowledgment = channel.sequence + UInt32.ofNat channel.window.fill
          rw [empty, sound.opening waiting]
          exact (UInt32.add_zero _).symm }
      cases room <;> exact established
  | notes waiting expected appended unpushed bare => exact sound.fed waiting appended
  | takes waiting expected appended unpushed loaded =>
      cases room with
      | true => exact sound.fed waiting appended
      | false => exact sound.restored appended
  | answers waiting expected appended pushed =>
      obtain ⟨-, sized, -⟩ := ReceiveWindow.append_eq_ok sound.sized appended
      cases room with
      | true =>
          exact {
            onLoop := State.Follows.closing.mem_loop
            sized := sized
            short := show 0 < windowSize by decide
            idle := fun _ => rfl
            opening := fun opening => by cases opening
            counted := fun established => by cases established }
      | false => exact sound.restored appended
  | awaits waiting acknowledges unfinished => exact sound
  | closes waiting acknowledges finished expected =>
      have empty : channel.window.fill = 0 := sound.idle (by rw [waiting]; decide)
      have closed : Sound
          { channel with
            acknowledgment := channel.acknowledgment + 1
            state := .listen } := {
        onLoop := State.Follows.closed.mem_loop
        sized := sound.sized
        short := sound.short
        idle := fun _ => empty
        opening := fun opening => by cases opening
        counted := fun established => by cases established }
      cases room <;> exact closed

/-- A sound channel refuses segments, and has no other failure. -/
theorem Sound.react_error (sound : channel.Sound) {failure : Failure}
    (fails : channel.react fresh segment = .error failure) :
    ∃ cause, failure = .refused cause := by
  unfold react at fails
  have onLoop := sound.onLoop
  cases waiting : channel.state with
  | listen =>
      rw [waiting] at fails
      dsimp only [accept] at fails
      split at fails
      · cases fails
        exact ⟨_, rfl⟩
      · cases fails
  | synReceived =>
      rw [waiting] at fails
      dsimp only [establish] at fails
      split at fails
      · cases fails
        exact ⟨_, rfl⟩
      · cases fails
  | established =>
      rw [waiting] at fails
      dsimp only [collect] at fails
      split at fails
      · cases fails
        exact ⟨_, rfl⟩
      · by_cases fits : channel.window.fill + segment.payload.length < windowSize
        · obtain ⟨window, appended, -⟩ := ReceiveWindow.append_fits sound.sized fits
          rw [appended] at fails
          dsimp only at fails
          split at fails
          · cases fails
          · split at fails <;> cases fails
        · rw [ReceiveWindow.append_overflows (Nat.not_lt.mp fits)] at fails
          cases fails
          exact ⟨_, rfl⟩
  | closeWait =>
      rw [waiting] at fails
      dsimp only [close] at fails
      split at fails
      · cases fails
        exact ⟨_, rfl⟩
      · split at fails
        · cases fails
        · split at fails
          · cases fails
            exact ⟨_, rfl⟩
          · cases fails
  | _ => simp [waiting, State.loop] at onLoop

end Channel

end NetStack.Tcp
