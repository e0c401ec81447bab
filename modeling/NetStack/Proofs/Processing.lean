/-
Module: NetStack.Proofs.Processing
Purpose: What becomes of the interface when a segment is processed: which
  channel changes to what, which frame leaves, and what is answered.
Main exports:
  Traffic.hasRoom, Interface.answered, Interface.conducted, Interface.outcome_conduct,
  Interface.processSegment_unbound, Interface.processSegment_refused,
  Interface.processSegment_reacts
-/
import NetStack.Proofs.Sending
import NetStack.Proofs.Tcp.Channel
import NetStack.Proofs.Tcp.Pool

namespace NetStack

/-!
A reaction names an answer, and whether it is carried out depends on one thing
only: whether the transmit ring has room for the answer.  Everything else about
the interface stays as it was, apart from the number that the answer takes.
-/

/-- Whether one more frame can be queued. -/
def Traffic.hasRoom (traffic : Traffic) : Bool :=
  decide (traffic.pending.length < ringSize)

/-- A running adapter always has room. -/
theorem Traffic.Prompt.hasRoom {traffic : Traffic} (prompt : traffic.Prompt)
    (automatic : traffic.automatic = true) : traffic.hasRoom = true := by
  rw [Traffic.hasRoom, prompt automatic]
  rfl

/-- Only a stalled adapter is ever without room. -/
theorem Traffic.Prompt.stalled {traffic : Traffic} (prompt : traffic.Prompt)
    (full : traffic.hasRoom = false) : traffic.automatic = false := by
  cases running : traffic.automatic with
  | false => rfl
  | true =>
      rw [prompt.hasRoom running] at full
      cases full

namespace Interface

open Tcp (Segment Reaction)

/-- The traffic after the answer of a reaction. -/
def answered (interface : Interface) (reaction : Reaction) (traffic : Traffic) : Traffic :=
  match reaction.answer? with
  | none => traffic
  | some answer =>
      if traffic.hasRoom then
        traffic.enqueue (interface.segmentFrame reaction.staged answer.flags answer.payload)
      else
        traffic

theorem automatic_answered (interface : Interface) (reaction : Reaction) (traffic : Traffic) :
    (interface.answered reaction traffic).automatic = traffic.automatic := by
  unfold answered
  split
  · rfl
  · split
    · exact Traffic.automatic_enqueue _ _
    · rfl

theorem waiting_answered (interface : Interface) (reaction : Reaction) (traffic : Traffic) :
    (interface.answered reaction traffic).waiting = traffic.waiting := by
  unfold answered
  split
  · rfl
  · split
    · exact Traffic.waiting_enqueue _ _
    · rfl

/-- Without room for the answer, the traffic stays as it is. -/
theorem answered_full (interface : Interface) (reaction : Reaction) {traffic : Traffic}
    (full : traffic.hasRoom = false) : interface.answered reaction traffic = traffic := by
  unfold answered
  split
  · rfl
  · rw [full, if_neg Bool.false_ne_true]

/-- An answer that finds room is the last frame that left. -/
theorem outbound_answered (interface : Interface) {reaction : Reaction} {answer : Tcp.Answer}
    {traffic : Traffic} (due : reaction.answer? = some answer) (room : traffic.hasRoom = true) :
    (interface.answered reaction traffic).outbound =
      traffic.outbound ++
        [interface.segmentFrame reaction.staged answer.flags answer.payload] := by
  rw [answered, due]
  dsimp only
  rw [room, if_pos rfl, Traffic.outbound_enqueue]

variable {interface : Interface} {traffic : Traffic}

/-- On an adapter that lacks no more than received frames, an answer that found
room is the last frame that left. -/
theorem outbox_answered (carries : interface.nic.Carries traffic) {waiting : List Arrival}
    {nic : Nic} {reaction : Reaction} {answer : Tcp.Answer}
    (onNic : nic.Carries (interface.answered reaction { traffic with waiting }))
    (due : reaction.answer? = some answer) (room : traffic.hasRoom = true) :
    nic.outbox = interface.nic.outbox ++
      [interface.segmentFrame reaction.staged answer.flags answer.payload] := by
  have left : Traffic.hasRoom { traffic with waiting } = true := room
  rw [onNic.outbox, carries.outbox, interface.outbound_answered due left]
  rfl

/-- A frame joins those that leave the stack exactly when there is room. -/
theorem transmit_cases {nic : Nic} (carries : nic.Carries traffic) (frame : Bytes) :
    ((Nic.transmit frame).outcome nic).1 =
        (if traffic.hasRoom then .ok () else .error (.refused .queueFull)) ∧
      ((Nic.transmit frame).outcome nic).2.Carries
        (if traffic.hasRoom then traffic.enqueue (frame.take packetSize) else traffic) := by
  rcases carries.pending_cases with room | full
  · have yes : traffic.hasRoom = true := decide_eq_true room
    obtain ⟨after, queued, onAfter⟩ := carries.transmit frame room
    rw [queued, yes]
    exact ⟨rfl, onAfter⟩
  · have no : traffic.hasRoom = false := decide_eq_false (by omega)
    rw [carries.transmit_full frame full, no]
    exact ⟨rfl, carries⟩

/-- An attempt to send on a channel succeeds exactly when there is room. -/
theorem outcome_attempt_sendOn (carries : interface.nic.Carries traffic)
    (index : Fin Tcp.poolSize) (flags : Tcp.Flags) (payload : Bytes) :
    (sendOn index flags payload).attempt.outcome interface =
      (.ok (if traffic.hasRoom then .ok () else .error .queueFull),
        { interface with
          nic :=
            ((Nic.transmit (interface.segmentFrame (interface.pool.get index) flags
              payload)).outcome interface.nic).2
          identification := interface.identification + 1 }) := by
  obtain ⟨answer, -⟩ :=
    transmit_cases carries (interface.segmentFrame (interface.pool.get index) flags payload)
  rw [Action.outcome_attempt, outcome_sendOn, outcome_onNic]
  dsimp only
  rw [answer]
  cases traffic.hasRoom <;> rfl

/-- The interface once a reaction was carried out, as far as there was room for
its answer. -/
def conducted (interface : Interface) (index : Fin Tcp.poolSize) (reaction : Reaction)
    (room : Bool) : Interface :=
  let moved :=
    { interface with pool := interface.pool.set index (reaction.channelAfter room) }
  match reaction.answer? with
  | none => moved
  | some answer =>
      { moved with
        nic :=
          ((Nic.transmit (interface.segmentFrame reaction.staged answer.flags
            answer.payload)).outcome interface.nic).2
        identification := interface.identification + 1 }

/-- A reaction is carried out on the one channel, as far as there is room for its
answer. -/
theorem outcome_conduct (carries : interface.nic.Carries traffic) (index : Fin Tcp.poolSize)
    (port : UInt16) (reaction : Reaction) :
    (conduct index port reaction).outcome interface =
      (reaction.verdict traffic.hasRoom, interface.conducted index reaction traffic.hasRoom) := by
  unfold conduct setChannel conducted Reaction.verdict Reaction.channelAfter
  simp only [Action.outcome_emitAll_bind, Action.outcome_modify_bind]
  cases due : reaction.answer? with
  | none => simp [Tcp.Pool.set_set]
  | some answer =>
      let staged : Interface :=
        { interface with pool := interface.pool.set index reaction.staged }
      have onStaged : staged.nic.Carries traffic := carries
      have sends : staged.pool.get index = reaction.staged := Tcp.Pool.get_set_same _ _ _
      have same : staged.segmentFrame reaction.staged answer.flags answer.payload =
          interface.segmentFrame reaction.staged answer.flags answer.payload := rfl
      have tried := outcome_attempt_sendOn onStaged index answer.flags answer.payload
      rw [sends, same] at tried
      dsimp only
      rw [Action.outcome_bind_of_ok tried]
      cases traffic.hasRoom with
      | true => simp [staged, Tcp.Pool.set_set]
      | false =>
          rcases answer with ⟨flags, payload, loss⟩
          cases loss with
          | ignored => simp [staged, Tcp.Pool.set_set]
          | undone restored => simp [staged, Tcp.Pool.set_set]

/-- Afterwards the adapter carries the answer too, if there was room. -/
theorem carries_conducted (carries : interface.nic.Carries traffic) (index : Fin Tcp.poolSize)
    (reaction : Reaction) :
    (interface.conducted index reaction traffic.hasRoom).nic.Carries
      (interface.answered reaction traffic) := by
  unfold conducted answered
  cases reaction.answer? with
  | none => exact carries
  | some answer =>
      obtain ⟨-, onNic⟩ := transmit_cases carries
        (interface.segmentFrame reaction.staged answer.flags answer.payload)
      rw [take_segmentFrame] at onNic
      exact onNic

/-! ## One segment -/

theorem outcome_stepChannel (index : Fin Tcp.poolSize) (segment : Segment)
    (interface : Interface) :
    (stepChannel index segment).outcome interface =
      match (interface.pool.get index).react (interface.pool.fresh index) segment with
      | .error failure => (.error failure, interface)
      | .ok reaction =>
          (conduct index segment.header.destinationPort reaction).outcome interface := by
  unfold stepChannel
  rw [Action.outcome_get_bind]
  dsimp only
  cases (interface.pool.get index).react (interface.pool.fresh index) segment with
  | error failure => rfl
  | ok reaction =>
      rw [Action.ofExcept_ok, pure_bind]

/-- Processing a segment is a step of the channel that serves its port. -/
theorem outcome_processSegment (segment : Segment) (interface : Interface) :
    (processSegment segment).outcome interface =
      match interface.pool.find? segment.header.destinationPort with
      | none => (.error (.refused (.noChannel segment.header.destinationPort)), interface)
      | some index => (stepChannel index segment).outcome interface := by
  unfold processSegment
  simp only [Action.outcome_emit_bind, Action.outcome_get_bind]
  cases interface.pool.find? segment.header.destinationPort with
  | none => rfl
  | some index =>
      refine Action.outcome_attempt_forward ?_ ?_
      · intro middle
        rfl
      · intro cause middle
        rfl

/-- A segment to a port that no channel serves is refused. -/
theorem processSegment_unbound {segment : Segment}
    (unbound : interface.pool.find? segment.header.destinationPort = none) :
    (processSegment segment).outcome interface =
      (.error (.refused (.noChannel segment.header.destinationPort)), interface) := by
  rw [outcome_processSegment, unbound]

/-- A segment that its channel refuses changes nothing. -/
theorem processSegment_refused {segment : Segment} {index : Fin Tcp.poolSize} {failure : Failure}
    (serves : interface.pool.find? segment.header.destinationPort = some index)
    (fails : (interface.pool.get index).react (interface.pool.fresh index) segment =
      .error failure) :
    (processSegment segment).outcome interface = (.error failure, interface) := by
  rw [outcome_processSegment, serves]
  dsimp only
  rw [outcome_stepChannel, fails]

/-- A segment that its channel reacts to changes that channel and nothing else,
and its answer leaves if there is room. -/
theorem processSegment_reacts (carries : interface.nic.Carries traffic) {segment : Segment}
    {index : Fin Tcp.poolSize} {reaction : Reaction}
    (serves : interface.pool.find? segment.header.destinationPort = some index)
    (reacts : (interface.pool.get index).react (interface.pool.fresh index) segment =
      .ok reaction) :
    ∃ nic identification,
      (processSegment segment).outcome interface =
        (reaction.verdict traffic.hasRoom,
          { interface with
            nic
            identification
            pool := interface.pool.set index (reaction.channelAfter traffic.hasRoom) }) ∧
      nic.Carries (interface.answered reaction traffic) := by
  rw [outcome_processSegment, serves]
  dsimp only
  rw [outcome_stepChannel, reacts]
  dsimp only
  have onLast := carries_conducted carries index reaction
  rw [outcome_conduct carries]
  unfold conducted at onLast ⊢
  cases due : reaction.answer? with
  | none =>
      rw [due] at onLast
      exact ⟨interface.nic, interface.identification, rfl, onLast⟩
  | some answer =>
      rw [due] at onLast
      exact ⟨_, _, rfl, onLast⟩

end Interface

end NetStack
