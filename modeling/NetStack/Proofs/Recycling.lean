/-
Module: NetStack.Proofs.Recycling
Purpose: A channel that listens again after any number of connections cannot be told
  from one that never had any.
Main exports:
  Tcp.Channel.Interchangeable, Tcp.Reaction.Alike, Tcp.Reaction.Agree,
  Tcp.Channel.Interchangeable.react,
  Interface.Resembles, Interface.Resembles.handling,
  Interface.Resting.resembling_delivery, Interface.Opens,
  Setup.recycled_channel_is_fresh
-/
import NetStack.Proofs.Atomicity
import NetStack.Proofs.Delivery
import NetStack.Proofs.Exchange

namespace NetStack

open Tcp (Segment Reaction)
open Interface (Operation)

/-!
A connection leaves three things behind: its peer, its last two numbers, and the bytes
in the cells of the window.  No cell above the fill mark is ever read before it was
written, and the mark is at zero while a channel listens.  The peer and the numbers are
written over by the SYN that opens the next connection, and until then nobody asks for
them.  So two channels that differ in no more than that answer every segment alike, and
from the first SYN on they differ in the cells alone.
-/

namespace Tcp

/-! ## Channels -/

/-- Channels that nobody can tell apart, or that both wait at the same local end for
whoever comes next. -/
def Channel.Interchangeable (one other : Channel) : Prop :=
  one.Alike other ∨ one.state = .listen ∧ other.state = .listen ∧ one.host = other.host

/-- Reactions by which the same is sent, and after which nobody can tell the channels
apart. -/
structure Reaction.Alike (one other : Reaction) : Prop where
  staged : one.staged.Alike other.staged
  answer : one.answer?.map (fun answer => (answer.flags, answer.payload)) =
    other.answer?.map fun answer => (answer.flags, answer.payload)
  next : one.next.Alike other.next

/-- A segment is refused for the same reason, or taken alike. -/
inductive Reaction.Agree : Except Failure Reaction → Except Failure Reaction → Prop where
  | refuses (failure : Failure) : Agree (.error failure) (.error failure)
  | takes {one other : Reaction} (alike : one.Alike other) : Agree (.ok one) (.ok other)

theorem Reaction.Agree.refl (result : Except Failure Reaction) : Agree result result := by
  cases result with
  | error failure => exact .refuses failure
  | ok reaction => exact .takes ⟨.refl _, rfl, .refl _⟩

namespace Channel

variable {one other : Channel} {segment : Segment}

namespace Alike

/-- Channels that nobody can tell apart differ in the window alone. -/
theorem eq (alike : one.Alike other) : other = { one with window := other.window } := by
  obtain ⟨state, host, guest, sequence, acknowledgment, -⟩ := alike
  cases one
  cases other
  dsimp only at *
  rw [state, host, guest, sequence, acknowledgment]

theorem fill_eq (alike : one.Alike other) (sound : one.Sound) (otherSound : other.Sound) :
    one.window.fill = other.window.fill := by
  rw [← sound.length_received, ← otherSound.length_received, alike.received]

/-- What is expected of a segment does not depend on the window. -/
theorem expect_eq (alike : one.Alike other) (required : Flags) :
    other.expect segment required = one.expect segment required := by
  rw [alike.eq]
  rfl

/-- A payload is added to both windows, or overflows both. -/
theorem append_cases (alike : one.Alike other) (sound : one.Sound) (otherSound : other.Sound)
    (payload : Bytes) :
    (∃ failure, one.window.append payload = .error failure ∧
      other.window.append payload = .error failure) ∨
      ∃ longer otherLonger, one.window.append payload = .ok longer ∧
        other.window.append payload = .ok otherLonger ∧
        longer.received = otherLonger.received := by
  have fill := alike.fill_eq sound otherSound
  by_cases room : one.window.fill + payload.length < windowSize
  · obtain ⟨longer, appended, -, -, taken, -⟩ := ReceiveWindow.append_fits sound.sized room
    obtain ⟨otherLonger, otherAppended, -, -, otherTaken, -⟩ :=
      ReceiveWindow.append_fits otherSound.sized (fill ▸ room)
    have received : one.window.received = other.window.received := alike.received
    exact .inr ⟨longer, otherLonger, appended, otherAppended, by rw [taken, otherTaken, received]⟩
  · have full : windowSize ≤ one.window.fill + payload.length := Nat.not_lt.mp room
    exact .inl ⟨_, ReceiveWindow.append_overflows full,
      ReceiveWindow.append_overflows (fill ▸ full)⟩

theorem establish (alike : one.Alike other) :
    Reaction.Agree (one.establish segment) (other.establish segment) := by
  unfold Channel.establish
  rw [alike.expect_eq]
  cases one.expect segment .ack with
  | error cause => exact .refuses _
  | ok value =>
      have next : Alike { one with state := .established } { other with state := .established } :=
        { alike with state := rfl }
      exact .takes ⟨alike, rfl, next⟩

/-- The response to the same request is the same. -/
theorem answerRequest {staged otherStaged : Channel} (alike : staged.Alike otherStaged)
    (port : UInt16) :
    (one.answerRequest staged port).Alike (other.answerRequest otherStaged port) := by
  unfold Channel.answerRequest
  rw [alike.received]
  refine ⟨alike, rfl, ?_⟩
  exact ⟨rfl, alike.host, alike.guest, congrArg (· + _) alike.sequence, alike.acknowledgment, rfl⟩

theorem collect (alike : one.Alike other) (sound : one.Sound) (otherSound : other.Sound) :
    Reaction.Agree (one.collect segment) (other.collect segment) := by
  unfold Channel.collect
  rw [alike.expect_eq]
  cases one.expect segment .ack with
  | error cause => exact .refuses _
  | ok value =>
      dsimp only
      rcases alike.append_cases sound otherSound segment.payload with
        ⟨failure, overflows, otherOverflows⟩ | ⟨window, otherWindow, taken, otherTaken, received⟩
      · rw [overflows, otherOverflows]
        exact .refuses _
      · rw [taken, otherTaken]
        dsimp only
        have fed : (one.fed window segment.payload.length).Alike
            (other.fed otherWindow segment.payload.length) :=
          ⟨alike.state, alike.host, alike.guest, alike.sequence,
            congrArg (· + _) alike.acknowledgment, received⟩
        split
        · exact .takes (answerRequest fed _)
        · split
          · exact .takes ⟨fed, rfl, fed⟩
          · exact .takes ⟨fed, rfl, fed⟩

theorem close (alike : one.Alike other) :
    Reaction.Agree (one.close segment) (other.close segment) := by
  have closing : Alike { one with acknowledgment := one.acknowledgment + 1 }
      { other with acknowledgment := other.acknowledgment + 1 } :=
    { alike with acknowledgment := congrArg (· + 1) alike.acknowledgment }
  unfold Channel.close
  rw [alike.expect_eq]
  dsimp only
  split
  · rw [alike.state]
    exact .refuses _
  · split
    · exact .takes ⟨alike, rfl, alike⟩
    · cases one.expect segment (.ack ||| .fin) with
      | error cause => exact .refuses _
      | ok value => exact .takes ⟨closing, rfl, { closing with state := rfl }⟩

end Alike

namespace Interchangeable

/-- While nobody is served nothing is received. -/
theorem received_eq (alike : one.Interchangeable other) (sound : one.Sound)
    (otherSound : other.Sound) : one.received = other.received := by
  rcases alike with alike | ⟨state, otherState, -⟩
  · exact alike.received
  · rw [received, ReceiveWindow.received, received, ReceiveWindow.received,
      sound.idle (by rw [state]; decide), otherSound.idle (by rw [otherState]; decide)]
    rfl

theorem state_eq (alike : one.Interchangeable other) : one.state = other.state := by
  rcases alike with alike | ⟨state, otherState, -⟩
  · exact alike.state
  · exact state.trans otherState.symm

/-- What is left of an earlier peer is written over by the SYN of the next one. -/
theorem accept (state : one.state = .listen) (otherState : other.state = .listen)
    (host : one.host = other.host) (sound : one.Sound) (otherSound : other.Sound) :
    Reaction.Agree (one.accept segment) (other.accept segment) := by
  have received : one.received = other.received :=
    received_eq (.inr ⟨state, otherState, host⟩) sound otherSound
  unfold Channel.accept
  rw [state, otherState]
  dsimp only
  split
  · exact .refuses _
  · refine .takes ⟨?_, rfl, ?_⟩
    · exact ⟨rfl, host, rfl, rfl, rfl, received⟩
    · exact ⟨rfl, host, rfl, rfl, rfl, received⟩

/-- Channels that look alike react alike to any segment. -/
theorem react (alike : one.Interchangeable other) (sound : one.Sound) (otherSound : other.Sound)
    (fresh otherFresh : Channel) :
    Reaction.Agree (one.react fresh segment) (other.react otherFresh segment) := by
  rcases alike with alike | ⟨state, otherState, host⟩
  · rw [react_fresh otherSound.onLoop otherFresh fresh]
    have same : other.state = one.state := alike.state.symm
    unfold Channel.react
    rw [same]
    cases state : one.state with
    | listen => exact accept state (same.trans state) alike.host sound otherSound
    | synReceived => exact alike.establish
    | established => exact alike.collect sound otherSound
    | closeWait => exact alike.close
    | closed => exact .refl _
    | lastAck => exact .takes ⟨alike, rfl, alike⟩
    | _ => exact .takes ⟨alike, rfl, alike⟩
  · unfold Channel.react
    rw [state, otherState]
    exact accept state otherState host sound otherSound

end Interchangeable

end Channel

end Tcp

namespace Interface

/-! ## What is to be done -/

/-- Memories that differ at most in one channel, and there in nothing that anybody can
tell once the channel has met a peer. -/
structure Memory.Resembles (met : Prop) (index : Fin Tcp.poolSize) (one other : Memory) :
    Prop where
  cache : one.cache = other.cache
  identification : one.identification = other.identification
  others : ∀ place, place ≠ index → one.pool.get place = other.pool.get place
  channel : (one.pool.get index).Interchangeable (other.pool.get index)
  alike : met → (one.pool.get index).Alike (other.pool.get index)

/-- Interfaces with such memories, and the same beyond them. -/
structure Resembles (met : Prop) (index : Fin Tcp.poolSize) (one other : Interface) :
    Prop where
  nic : one.nic = other.nic
  config : one.config = other.config
  memory : one.memory.Resembles met index other.memory

/-- The same is to be done, and what is remembered then is related. -/
inductive Handling.Like (related : Memory → Memory → Prop) : Handling → Handling → Prop where
  | refuses (failure : Failure) : Like related (.refuses failure) (.refuses failure)
  | settles {next otherNext : Memory} (alike : related next otherNext) :
      Like related (.settles next) (.settles otherNext)
  | answers (frame : Bytes) {sent otherSent : Memory} (alike : related sent otherSent)
      (unsent otherUnsent : Memory) (excused otherExcused : Bool) :
      Like related (.answers frame sent unsent excused)
        (.answers frame otherSent otherUnsent otherExcused)

variable {interface one other : Interface} {index : Fin Tcp.poolSize} {met : Prop}
  {parcel : Parcel} {segment : Segment} {frame : Bytes}

theorem Memory.Resembles.weaken {before after : Prop} {memory again : Memory}
    (resembles : memory.Resembles after index again) (onward : before → after) :
    memory.Resembles before index again :=
  { resembles with alike := fun earlier => resembles.alike (onward earlier) }

theorem Resembles.weaken {before after : Prop} (resembles : Resembles after index one other)
    (onward : before → after) : Resembles before index one other :=
  { resembles with memory := resembles.memory.weaken onward }

namespace Handling.Like

variable {related : Memory → Memory → Prop} {handling again : Handling}

theorem verdict_eq (like : Like related handling again) : again.verdict = handling.verdict := by
  cases like <;> rfl

theorem frames_eq (like : Like related handling again) : again.frames = handling.frames := by
  cases like <;> rfl

theorem leaving_eq (like : Like related handling again) (nic : Nic) :
    again.leaving nic = handling.leaving nic := by
  cases like <;> rfl

/-- What is remembered is related if what was remembered before is, or if anything was
done at all. -/
theorem remembered (like : Like related handling again) {before otherBefore : Memory}
    (begun : handling.verdict = .ok () ∨ related before otherBefore) :
    related (handling.remembered before) (again.remembered otherBefore) := by
  cases like with
  | refuses failure => exact begun.resolve_left nofun
  | settles alike => exact alike
  | answers frame alike unsent otherUnsent excused otherExcused => exact alike

theorem mono {weaker : Memory → Memory → Prop} (like : Like related handling again)
    (weaken : ∀ memory other, related memory other → weaker memory other) :
    Like weaker handling again := by
  cases like with
  | refuses failure => exact .refuses failure
  | settles alike => exact .settles (weaken _ _ alike)
  | answers frame alike unsent otherUnsent excused otherExcused =>
      exact .answers frame (weaken _ _ alike) _ _ _ _

end Handling.Like

namespace Resembles

/-- Interfaces that resemble each other differ in the pool alone. -/
theorem eq (resembles : Resembles met index one other) :
    other = { one with pool := other.pool } := by
  obtain ⟨nic, config, ⟨cache, identification, -, -, -⟩⟩ := resembles
  cases one
  cases other
  dsimp only [Interface.memory] at *
  rw [nic, config, cache, identification]

/-- Messages do not depend on the channels. -/
theorem messageFrame_eq (resembles : Resembles met index one other) (destination : MacAddress)
    (message : Arp.Message) :
    one.messageFrame destination message = other.messageFrame destination message := by
  rw [resembles.eq]
  rfl

/-- Packets are sent alike, too. -/
theorem packetHandling (resembles : Resembles met index one other) (protocol : UInt8)
    (destination : Ipv4Address) (made : Except Fault Bytes) :
    Handling.Like (Memory.Resembles met index) (one.packetHandling protocol destination made)
      (other.packetHandling protocol destination made) := by
  have memory := resembles.memory
  cases made with
  | error cause => exact .refuses _
  | ok payload =>
      have same : one.packetFrame protocol destination payload =
          other.packetFrame protocol destination payload := by
        rw [resembles.eq]
        rfl
      have counted : one.counted.Resembles met index other.counted :=
        { memory with identification := congrArg (· + 1) memory.identification }
      rw [Interface.packetHandling, Interface.packetHandling, ← same]
      exact .answers _ counted _ _ _ _

/-- What is no segment is treated the same. -/
theorem handling_portless (resembles : Resembles met index one other)
    (portless : ∀ segment, parcel ≠ .segment segment) :
    Handling.Like (Memory.Resembles met index) (one.handling parcel) (other.handling parcel) := by
  have memory := resembles.memory
  cases parcel with
  | unreadable cause => exact .refuses _
  | foreign => exact .settles memory
  | resolution message =>
      have learned : (one.learned message).Resembles met index (other.learned message) := by
        refine { memory with cache := ?_ }
        rw [resembles.eq]
        rfl
      rw [handling, handling, resolutionHandling, resolutionHandling, resembles.config]
      dsimp only
      split
      · rw [resembles.messageFrame_eq]
        exact .answers _ learned _ _ _ _
      · exact .settles learned
  | echo sender message =>
      have known : one.cache = other.cache := memory.cache
      rw [handling, handling, echoHandling, echoHandling, known]
      cases other.cache.lookup sender with
      | none =>
          dsimp only
          rw [resembles.messageFrame_eq, resembles.config]
          exact .answers _ memory _ _ _ _
      | some mac => exact resembles.packetHandling _ _ _
  | datagram payload =>
      rw [handling, handling, resembles.config]
      exact resembles.packetHandling _ _ _
  | segment segment => exact absurd rfl (portless segment)

/-- Reactions that are alike are carried out in the same way. -/
theorem reactionHandling (resembles : Resembles met index one other)
    {related : Memory → Memory → Prop} {place : Fin Tcp.poolSize} {reaction again : Reaction}
    (alike : reaction.Alike again)
    (next : ∀ number, related (one.reacted place reaction.next number)
      (other.reacted place again.next number)) :
    Handling.Like related (one.reactionHandling place reaction)
      (other.reactionHandling place again) := by
  have identification : one.identification = other.identification :=
    resembles.memory.identification
  have frames (flags : Tcp.Flags) (payload : Bytes) :
      one.segmentFrame reaction.staged flags payload =
        other.segmentFrame again.staged flags payload := by
    rw [alike.staged.eq, resembles.eq]
    rfl
  have same := alike.answer
  unfold Interface.reactionHandling
  cases due : reaction.answer? with
  | none =>
      cases dueAgain : again.answer? with
      | none =>
          rw [identification]
          exact .settles (next _)
      | some answer =>
          rw [due, dueAgain] at same
          cases same
  | some answer =>
      cases dueAgain : again.answer? with
      | none =>
          rw [due, dueAgain] at same
          cases same
      | some answerAgain =>
          rw [due, dueAgain] at same
          obtain ⟨flags, payload⟩ := Prod.mk.inj (Option.some.inj same)
          dsimp only
          rw [identification, frames, flags, payload, Reaction.channelAfter_true,
            Reaction.channelAfter_true]
          exact .answers _ (next _) _ _ _ _

/-- A segment for the channel at `index` is treated the same, and once it is taken
nobody can tell the channels apart. -/
theorem handling_here (resembles : Resembles met index one other) {automatic : Bool}
    (sound : one.Sound automatic) (otherSound : other.Sound automatic)
    (here : segment.header.destinationPort = Tcp.Pool.localPort index) :
    Handling.Like (Memory.Resembles True index) (one.handling (.segment segment))
      (other.handling (.segment segment)) := by
  have memory := resembles.memory
  have agree : Reaction.Agree
      ((one.pool.get index).react (one.pool.fresh index) segment)
      ((other.pool.get index).react (other.pool.fresh index) segment) :=
    memory.channel.react (sound.channels index) (otherSound.channels index) _ _
  rw [handling, handling, segmentHandling, segmentHandling,
    (Tcp.Pool.find?_eq_some_iff sound.bound).mpr here.symm,
    (Tcp.Pool.find?_eq_some_iff otherSound.bound).mpr here.symm]
  dsimp only
  generalize (one.pool.get index).react (one.pool.fresh index) segment = result at agree
  generalize (other.pool.get index).react (other.pool.fresh index) segment = again at agree
  cases agree with
  | refuses failure => exact .refuses failure
  | @takes reaction reactionAgain alike =>
      refine resembles.reactionHandling alike fun number => ?_
      have met : ((one.reacted index reaction.next number).pool.get index).Alike
          ((other.reacted index reactionAgain.next number).pool.get index) := by
        rw [reacted, reacted, Tcp.Pool.get_set_same, Tcp.Pool.get_set_same]
        exact alike.next
      refine ⟨memory.cache, rfl, fun place apart => ?_, .inl met, fun _ => met⟩
      rw [reacted, reacted, Tcp.Pool.get_set_other _ (Ne.symm apart),
        Tcp.Pool.get_set_other _ (Ne.symm apart)]
      exact memory.others place apart

/-- A segment for any other port is treated the same. -/
theorem handling_elsewhere (resembles : Resembles met index one other) {automatic : Bool}
    (sound : one.Sound automatic) (otherSound : other.Sound automatic)
    (elsewhere : segment.header.destinationPort ≠ Tcp.Pool.localPort index) :
    Handling.Like (Memory.Resembles met index) (one.handling (.segment segment))
      (other.handling (.segment segment)) := by
  have memory := resembles.memory
  rw [handling, handling, segmentHandling, segmentHandling,
    otherSound.bound.find?_eq sound.bound]
  cases found : one.pool.find? segment.header.destinationPort with
  | none => exact .refuses _
  | some place =>
      have apart : place ≠ index := by
        rintro rfl
        exact elsewhere ((Tcp.Pool.find?_eq_some_iff sound.bound).mp found).symm
      have same : one.pool.get place = other.pool.get place := memory.others place apart
      dsimp only
      rw [← same, Tcp.Channel.react_fresh (sound.channels place).onLoop (other.pool.fresh place)
        (one.pool.fresh place)]
      cases (one.pool.get place).react (one.pool.fresh place) segment with
      | error failure => exact .refuses failure
      | ok reaction =>
          refine resembles.reactionHandling ⟨.refl _, rfl, .refl _⟩ fun number => ?_
          have kept (interface : Interface) :
              (interface.reacted place reaction.next number).pool.get index =
                interface.pool.get index := Tcp.Pool.get_set_other _ apart
          refine ⟨memory.cache, rfl, fun stand away => ?_, ?_, ?_⟩
          · rw [reacted, reacted, Tcp.Pool.get_set, Tcp.Pool.get_set]
            split
            · rfl
            · exact memory.others stand away
          · rw [kept, kept]
            exact memory.channel
          · rw [kept, kept]
            exact memory.alike

/-- Whatever a frame carries, it is treated the same. -/
theorem handling (resembles : Resembles met index one other) {automatic : Bool}
    (sound : one.Sound automatic) (otherSound : other.Sound automatic) (parcel : Parcel) :
    Handling.Like (Memory.Resembles met index) (one.handling parcel) (other.handling parcel) := by
  by_cases carries : ∃ segment, parcel = .segment segment
  · obtain ⟨segment, rfl⟩ := carries
    by_cases here : segment.header.destinationPort = Tcp.Pool.localPort index
    · exact (resembles.handling_here sound otherSound here).mono fun _ _ alike =>
        alike.weaken fun _ => trivial
    · exact resembles.handling_elsewhere sound otherSound here
  · exact resembles.handling_portless fun segment same => carries ⟨segment, same⟩

end Resembles

/-! ## Deliveries -/

/-- A frame that arrives opens a channel: the channel listens, and takes the SYN. -/
structure Opens (interface : Interface) (index : Fin Tcp.poolSize) (frame : Bytes) : Prop where
  listening : (interface.pool.get index).state = .listen
  carries : ∃ segment, Segment.arriving? frame = some segment ∧
    segment.header.destinationPort = Tcp.Pool.localPort index ∧
    segment.header.flags.contains .syn = true
  taken : ∃ length, (interface.receipt frame).answer = .ok length

/-- What opens a channel is taken. -/
theorem Opens.verdict_eq (opens : one.Opens index frame) (resting : one.Resting) :
    (one.handling (.arriving frame)).verdict = .ok () := by
  obtain ⟨length, taken⟩ := opens.taken
  obtain ⟨received, -, -⟩ := resting.delivery frame
  rw [received] at taken
  cases verdict : (one.handling (.arriving frame)).verdict with
  | ok value => rfl
  | error failure =>
      rw [verdict] at taken
      cases taken

/-- What is remembered after a frame resembles what is remembered after it elsewhere,
and the channel that it opened is the same. -/
theorem Resembles.remembered (resembles : Resembles met index one other)
    (resting : one.Resting) (otherResting : other.Resting) (frame : Bytes) :
    let here := one.handling (.arriving frame)
    let there := other.handling (.arriving frame)
    (here.remembered one.memory).Resembles (met ∨ one.Opens index frame) index
      (there.remembered other.memory) := by
  intro here there
  have like := resembles.handling resting.sound otherResting.sound (.arriving frame)
  have remembered : (here.remembered one.memory).Resembles met index
      (there.remembered other.memory) := like.remembered (.inr resembles.memory)
  refine { remembered with alike := ?_ }
  rintro (earlier | opens)
  · exact remembered.alike earlier
  · obtain ⟨segment, carried, addressed, -⟩ := opens.carries
    have met := resembles.handling_here resting.sound otherResting.sound addressed
    rw [← Parcel.arriving_eq_segment_iff.mpr carried] at met
    have taken : (here.remembered one.memory).Resembles True index
        (there.remembered other.memory) := met.remembered (.inl (opens.verdict_eq resting))
    exact taken.alike trivial

theorem Resembles.relayed (resembles : Resembles met index one other) (frame : Bytes) :
    one.relayed frame = other.relayed frame := by
  rw [Interface.relayed, Interface.relayed, Operation.next_inject, Operation.next_inject,
    Interface.taken, Interface.taken, resembles.nic]

namespace Resting

/-- The same comes of a frame on interfaces that resemble each other, and they still do;
once a SYN was taken, nobody can tell the channels apart. -/
theorem resembling_delivery (resting : one.Resting) (otherResting : other.Resting)
    (resembles : Resembles met index one other) (frame : Bytes) :
    other.receipt frame = one.receipt frame ∧
      Resembles (met ∨ one.Opens index frame) index (one.after [.inject frame, .poll])
        (other.after [.inject frame, .poll]) := by
  have like := resembles.handling resting.sound otherResting.sound (.arriving frame)
  have remembered := resembles.remembered resting otherResting frame
  obtain ⟨received, left, -⟩ := resting.delivery frame
  obtain ⟨otherReceived, otherLeft, -⟩ := otherResting.delivery frame
  rw [received, otherReceived, left, otherLeft, like.verdict_eq, like.frames_eq]
  exact ⟨rfl, by rw [like.leaving_eq, resembles.relayed], resembles.config, remembered⟩

theorem resembling_deliveries (resting : one.Resting) (otherResting : other.Resting)
    (resembles : Resembles met index one other) (frames : List Bytes) :
    other.receipts frames = one.receipts frames ∧
      Resembles met index (one.after (deliveries frames)) (other.after (deliveries frames)) := by
  induction frames generalizing one other with
  | nil => exact ⟨rfl, resembles⟩
  | cons frame frames inductiveHypothesis =>
      obtain ⟨received, later⟩ := resting.resembling_delivery otherResting resembles frame
      obtain ⟨rest, last⟩ := inductiveHypothesis (resting.after_delivery frame)
        (otherResting.after_delivery frame) (later.weaken .inl)
      exact ⟨by rw [Interface.receipts, Interface.receipts, received, rest], last⟩

/-- Once a SYN was taken, nobody can tell the channels apart ever after. -/
theorem alike_after_opening (resting : one.Resting) (otherResting : other.Resting)
    (resembles : Resembles met index one other) {earlier : List Bytes}
    (opens : (one.after (deliveries earlier)).Opens index frame) (later : List Bytes) :
    ((one.after (deliveries (earlier ++ frame :: later))).pool.get index).Alike
      ((other.after (deliveries (earlier ++ frame :: later))).pool.get index) := by
  obtain ⟨-, before⟩ := resting.resembling_deliveries otherResting resembles earlier
  have there := resting.after_deliveries earlier
  have otherThere := otherResting.after_deliveries earlier
  obtain ⟨-, opened⟩ := there.resembling_delivery otherThere before frame
  obtain ⟨-, last⟩ := (there.after_delivery frame).resembling_deliveries
    (otherThere.after_delivery frame) opened later
  rw [after_deliveries_append, after_deliveries_append]
  exact last.memory.alike (.inr opens)

end Resting

/-! ## A channel that was reset -/

/-- The local address that a channel is reset to stays the one that it has. -/
theorem Sound.localAddress_next {automatic : Bool} (sound : interface.Sound automatic)
    (operation : Operation) :
    (operation.next interface).pool.localAddress = interface.pool.localAddress := by
  cases sound.steps operation with
  | quiet missing undisturbed => rw [undisturbed.pool]
  | refused arrives answered undisturbed => rw [undisturbed.pool]
  | reacts carries arrives serves how answered becomes onNic =>
      rw [becomes]
      rfl

/-- The interface with one channel put back into its initial binding. -/
def renewed (interface : Interface) (index : Fin Tcp.poolSize) : Interface :=
  { interface with pool := interface.pool.reset index }

theorem get_renewed (interface : Interface) (index : Fin Tcp.poolSize) :
    (interface.renewed index).pool.get index = interface.pool.fresh index :=
  Tcp.Pool.get_set_same _ _ _

/-- A listening channel resembles the one that it was at first. -/
theorem Resting.resembles_renewed (resting : interface.Resting)
    (address : interface.pool.localAddress = interface.config.address)
    (listening : (interface.pool.get index).state = .listen) :
    (interface.renewed index).Resting ∧
      Resembles False index interface (interface.renewed index) := by
  have host : (interface.pool.fresh index).host = (interface.pool.get index).host := by
    rw [resting.sound.bound index, ← address]
    rfl
  have untouched (place : Fin Tcp.poolSize) (apart : place ≠ index) :
      (interface.renewed index).pool.get place = interface.pool.get place :=
    Tcp.Pool.get_set_other _ (Ne.symm apart)
  refine ⟨⟨⟨resting.sound.wired, resting.sound.bound.set host, fun place => ?_⟩, resting.idle⟩,
    rfl, rfl, rfl, rfl, fun place apart => (untouched place apart).symm, ?_, nofun⟩
  · by_cases here : place = index
    · rw [here, get_renewed]
      exact Tcp.Channel.sound_listening _ _
    · rw [untouched place here]
      exact resting.sound.channels place
  · right
    rw [memory, memory, get_renewed]
    exact ⟨listening, rfl, host.symm⟩

end Interface

namespace Setup

theorem localAddress_after (setup : Setup) (operations : List Operation) :
    (setup.start.after operations).pool.localAddress = setup.config.address := by
  induction operations using List.reverseRecOn with
  | nil => rfl
  | append_singleton operations operation inductiveHypothesis =>
      rw [Interface.after_concat, (setup.sound_after operations).1.localAddress_next]
      exact inductiveHypothesis

/-- A channel that listens again is as good as new.  Wherever a run has led on a running
adapter, if no frame waits and a channel listens, let frames arrive, each polled before
the next one arrives, and let the same frames arrive after that channel was put back
into its initial binding.  The same comes of every frame, the same bytes are sent, and
the channel is in the same state and has received the same.  And once it took a SYN, it
has the same peer and the same numbers as well. -/
theorem recycled_channel_is_fresh (setup : Setup) (running : setup.automatic = true)
    (operations : List Operation)
    (idle : (setup.start.after operations).nic.receiveReady = false) (index : Fin Tcp.poolSize)
    (listening : ((setup.start.after operations).pool.get index).state = .listen)
    (frames : List Bytes) :
    let reached := setup.start.after operations
    let renewed := reached.renewed index
    let recycled := (reached.after (Interface.deliveries frames)).pool.get index
    let fresh := (renewed.after (Interface.deliveries frames)).pool.get index
    renewed.receipts frames = reached.receipts frames ∧
      renewed.emissions (Interface.deliveries frames) =
        reached.emissions (Interface.deliveries frames) ∧
      fresh.state = recycled.state ∧ fresh.received = recycled.received ∧
      ∀ (earlier : List Bytes) (frame : Bytes) (later : List Bytes),
        frames = earlier ++ frame :: later →
          (reached.after (Interface.deliveries earlier)).Opens index frame →
            fresh.guest = recycled.guest ∧ fresh.sequence = recycled.sequence ∧
              fresh.acknowledgment = recycled.acknowledgment := by
  intro reached renewed recycled fresh
  have resting : reached.Resting := setup.resting_after running operations idle
  have address : reached.pool.localAddress = reached.config.address := by
    rw [setup.localAddress_after, (setup.sound_after operations).2]
  obtain ⟨restingRenewed, resembles⟩ := resting.resembles_renewed address listening
  obtain ⟨receipts, last⟩ := resting.resembling_deliveries restingRenewed resembles frames
  have alike : recycled.Interchangeable fresh := last.memory.channel
  have sound : recycled.Sound := (resting.after_deliveries frames).sound.channels index
  have freshSound : fresh.Sound := (restingRenewed.after_deliveries frames).sound.channels index
  refine ⟨receipts, ?_, alike.state_eq.symm, (alike.received_eq sound freshSound).symm, ?_⟩
  · rw [Interface.emissions_deliveries, Interface.emissions_deliveries, receipts]
  · rintro earlier frame later rfl opens
    have same : recycled.Alike fresh :=
      resting.alike_after_opening restingRenewed resembles opens later
    exact ⟨same.guest.symm, same.sequence.symm, same.acknowledgment.symm⟩

/-- The web channel listens again once the sample exchange is over, with the client of
that exchange still on record. -/
theorem exchanged_web :
    let frames := sampleExchange.script.map fun message =>
      message.frame (Setup.default true).start
    let reached := (Setup.default true).start.after (Interface.deliveries frames)
    reached.Resting ∧ (reached.pool.get Tcp.Pool.web).state = .listen ∧
      (reached.pool.get Tcp.Pool.web).guest = sampleExchange.client := by
  intro frames reached
  have resting := (Setup.default true).resting_start rfl
  have listening : ((Setup.default true).start.pool.get Tcp.Pool.web).state = .listen := by
    rw [pool_start, Tcp.Pool.get_listening]
    rfl
  have small : ∀ message ∈ sampleExchange.script, message.payload.length ≤ Tcp.maxPayload := by
    decide
  have fits : ∀ frame ∈ frames, frame.length ≤ packetSize := by
    intro frame member
    obtain ⟨message, -, rfl⟩ := List.mem_map.mp member
    exact message.length_frame_le _
  obtain ⟨last, dialogue, stands⟩ := Exchange.completes (resting.sound.attentive resting.idle) rfl
    (resting.sound.channels Tcp.Pool.web) listening (by decide) (by decide) fits
    (Tcp.Message.map_ofFrame?_frame _ small)
  obtain rfl : reached = last := dialogue.after_deliveries
  exact ⟨resting.after_deliveries frames, stands.state, stands.guest⟩

theorem recycled_channel_is_fresh_after_exchange :
    let frames := sampleExchange.script.map fun message =>
      message.frame (Setup.default true).start
    let reached := (Setup.default true).start.after (Interface.deliveries frames)
    let renewed := reached.renewed Tcp.Pool.web
    let recycled := (reached.after (Interface.deliveries [openingTo 80])).pool.get Tcp.Pool.web
    let fresh := (renewed.after (Interface.deliveries [openingTo 80])).pool.get Tcp.Pool.web
    reached.nic.receiveReady = false ∧ (reached.pool.get Tcp.Pool.web).state = .listen ∧
      (reached.pool.get Tcp.Pool.web).guest.port = 51000 ∧
      (renewed.pool.get Tcp.Pool.web).guest.port = 8080 ∧
      renewed.receipts [openingTo 80] = reached.receipts [openingTo 80] ∧
      fresh.guest = recycled.guest := by
  intro frames reached renewed recycled fresh
  obtain ⟨resting, listening, guest⟩ := exchanged_web
  obtain ⟨segment, carried, -, -, destinationPort, flags, -⟩ := arriving?_openingTo 80
  have syn : segment.header.flags.contains .syn = true := by
    rw [flags]
    decide
  have serves : Tcp.Pool.localPort Tcp.Pool.web = segment.header.destinationPort :=
    destinationPort.symm
  obtain ⟨-, answered, -⟩ := resting.takes_syn carried serves listening syn
    (by rw [flags]; decide)
  have opens : (reached.after (Interface.deliveries [])).Opens Tcp.Pool.web (openingTo 80) := by
    rw [Interface.after_deliveries_nil reached]
    exact ⟨listening, ⟨segment, carried, destinationPort, syn⟩, _, answered⟩
  obtain ⟨received, -, -, -, opened⟩ := recycled_channel_is_fresh (Setup.default true) rfl
    (Interface.deliveries frames) resting.idle Tcp.Pool.web listening [openingTo 80]
  obtain ⟨sameGuest, -, -⟩ := opened [] (openingTo 80) [] rfl opens
  have client : (reached.pool.get Tcp.Pool.web).guest = sampleExchange.client := guest
  have last : (reached.pool.get Tcp.Pool.web).guest.port = 51000 := by
    rw [client]
    rfl
  have first : (renewed.pool.get Tcp.Pool.web).guest.port = 8080 := by
    rw [Interface.get_renewed reached]
    rfl
  exact ⟨resting.idle, listening, last, first, received, sameGuest⟩

end Setup

end NetStack
