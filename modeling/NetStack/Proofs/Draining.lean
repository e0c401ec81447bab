/-
Module: NetStack.Proofs.Draining
Purpose: How polls empty the receive ring, and what keeps them from it.
Main exports:
  Interface.Operation.Receives, Interface.polls, Interface.Queues,
  Interface.Queues.after, Interface.poll_fragment, Setup.whole_frames_drain,
  Setup.fragment_blocks
-/
import NetStack.Proofs.Adapter.Sides
import NetStack.Proofs.Handling
import NetStack.Proofs.Invariant

namespace NetStack

open Interface (Operation)

/-!
A poll takes the frame in front off the receive ring whatever it makes of it, so
a frame that cannot be read holds nobody up.  Only a frame that does not end in
its slot is left where it is: every poll passes it over, and what arrives behind
it is never reached.
-/

namespace Interface

variable {interface : Interface} {traffic : Traffic} {oldest : Arrival} {rest : List Arrival}

/-! ## One poll -/

/-- What is done about a frame is done on the sending side. -/
theorem Handling.outcome_receiving (carries : interface.nic.Carries traffic)
    (handling : Handling) :
    interface.nic.ReceivesAlike (handling.outcome interface).2.nic ∧
      ∃ later, (handling.outcome interface).2.nic.Carries later ∧
        later.waiting = traffic.waiting := by
  cases handling with
  | refuses failure => exact ⟨carries.receivesAlike_refl, traffic, carries, rfl⟩
  | settles next => exact ⟨carries.receivesAlike_refl, traffic, carries, rfl⟩
  | answers frame sent unsent excused =>
      have left : ((Handling.answers frame sent unsent excused).outcome interface).2.nic =
          ((Nic.transmit frame).outcome interface.nic).2 := by
        rw [Handling.outcome]
        rcases (Nic.transmit frame).outcome interface.nic with ⟨answer, nic⟩
        cases answer <;> rfl
      obtain ⟨-, onSent⟩ := transmit_cases carries frame
      rw [left]
      refine ⟨carries.receivesAlike_transmit frame, _, onSent, ?_⟩
      split
      · exact Traffic.waiting_enqueue _ _
      · rfl

/-- To poll is to take what is in front, and to do something about it. -/
theorem next_poll (carries : interface.nic.Carries traffic) :
    ∃ handling : Handling, Operation.poll.next interface =
      (handling.outcome { interface with nic := interface.taken }).2 := by
  cases next : traffic.next? with
  | none =>
      refine ⟨.settles interface.memory, ?_⟩
      rw [Operation.next, outcome_poll_idle carries next]
      rfl
  | some frame =>
      refine ⟨interface.handling (.ofFrame packetSize frame), ?_⟩
      rw [Operation.next, outcome_poll_parcel carries next]

/-- The poll that finds a whole frame in front gives its slot back, whatever comes
of the frame. -/
theorem poll_whole (carries : interface.nic.Carries traffic)
    (waiting : traffic.waiting = oldest :: rest) (whole : oldest.whole = true) :
    interface.nic.Releases (Operation.poll.next interface).nic ∧
      ∃ later, (Operation.poll.next interface).nic.Carries later ∧ later.waiting = rest := by
  let polling : Interface := { interface with nic := interface.taken }
  obtain ⟨handed, onPolling⟩ : interface.nic.HandsBack polling.nic ∧
      polling.nic.Carries { traffic with waiting := rest } :=
    carries.receive_front waiting whole (.zeros packetSize)
  obtain ⟨handling, next⟩ := next_poll carries
  obtain ⟨alike, later, onLater, same⟩ := handling.outcome_receiving onPolling
  rw [next]
  exact ⟨handed.toReleases.receivesAlike alike, later, onLater, same⟩

/-- A poll that takes nothing off the adapter does nothing. -/
theorem poll_untaken (carries : interface.nic.Carries traffic) (idle : traffic.next? = none)
    (kept : interface.taken = interface.nic) : poll.outcome interface = (.ok 0, interface) := by
  rw [poll_eq_pollInto, outcome_pollInto_idle carries idle, kept]

theorem poll_empty (carries : interface.nic.Carries traffic) (empty : traffic.waiting = []) :
    poll.outcome interface = (.ok 0, interface) := by
  apply poll_untaken carries
  · rw [Traffic.next?, empty]
  · rw [taken, carries.receive_none _ empty]

/-- The poll that finds a fragment in front takes nothing. -/
theorem poll_fragment (carries : interface.nic.Carries traffic)
    (waiting : traffic.waiting = oldest :: rest) (fragment : oldest.whole = false) :
    poll.outcome interface = (.ok 0, interface) := by
  apply poll_untaken carries
  · rw [Traffic.next?, waiting]
    dsimp only
    rw [fragment]
    rfl
  · rw [taken, carries.receive_fragment _ waiting fragment]

theorem next_of_poll {answer : Except Failure Nat} {last : Interface}
    (polled : poll.outcome interface = (answer, last)) : Operation.poll.next interface = last := by
  rw [Operation.next, outcome_perform_poll, polled]

/-! ## Runs on the receiving side -/

/-- What happens on the receiving side: frames arrive, whole or not, and the stack
polls. -/
inductive Operation.Receives : Operation → Prop where
  | inject (frame : Bytes) : Receives (.inject frame)
  | injectFragment (frame : Bytes) : Receives (.injectFragment frame)
  | poll : Receives .poll

def Operation.isPoll : Operation → Bool
  | .poll => true
  | _ => false

/-- How often a run polls. -/
def polls (operations : List Operation) : Nat :=
  operations.countP Operation.isPoll

/-- An arrival waits for its turn, and these others are ahead of it. -/
def Queues (interface : Interface) (ahead : List Arrival) (arrival : Arrival) : Prop :=
  ∃ traffic behind, interface.nic.Carries traffic ∧ traffic.waiting = ahead ++ arrival :: behind

namespace Queues

variable {ahead : List Arrival} {arrival first : Arrival}

/-- Whatever arrives queues behind it. -/
theorem arrives {frame : Bytes} {whole : Bool} (queues : interface.Queues ahead arrival) :
    { interface with
      nic := ((Nic.onSoftware false (Rig.deliver frame whole)).outcome interface.nic).2 }.Queues
        ahead arrival := by
  obtain ⟨traffic, behind, carries, waiting⟩ := queues
  rcases carries.waiting_cases with room | full
  · obtain ⟨nic, delivered, onNic⟩ := carries.deliver frame whole room
    rw [delivered]
    refine ⟨_, behind ++ [⟨frame.take packetSize, whole⟩], onNic, ?_⟩
    rw [Traffic.arrive, waiting]
    simp
  · rw [carries.deliver_full frame whole full]
    exact ⟨traffic, behind, carries, waiting⟩

/-- It moves up by one with every poll that takes a whole frame. -/
theorem polled (queues : interface.Queues (first :: ahead) arrival) (whole : first.whole = true) :
    (Operation.poll.next interface).Queues ahead arrival := by
  obtain ⟨traffic, behind, carries, waiting⟩ := queues
  obtain ⟨-, later, onLater, left⟩ := poll_whole carries waiting whole
  exact ⟨later, behind, onLater, left⟩

/-- After as many polls as whole frames were ahead of it, it is in front, whatever
arrived in between. -/
theorem after (queues : interface.Queues ahead arrival)
    (whole : ∀ other ∈ ahead, other.whole = true) {later : List Operation}
    (receives : ∀ operation ∈ later, operation.Receives) (count : polls later = ahead.length) :
    (interface.after later).Queues [] arrival := by
  induction later generalizing interface ahead with
  | nil =>
      have none : ahead = [] := List.length_eq_zero_iff.mp count.symm
      rw [none] at queues
      exact queues
  | cons operation later inductiveHypothesis =>
      have onward := fun other member => receives other (List.mem_cons_of_mem operation member)
      cases receives operation List.mem_cons_self with
      | inject frame =>
          apply inductiveHypothesis _ whole onward count
          rw [Operation.next_inject]
          exact queues.arrives
      | injectFragment frame =>
          apply inductiveHypothesis _ whole onward count
          rw [Operation.next_injectFragment]
          exact queues.arrives
      | poll =>
          have more : polls (.poll :: later) = polls later + 1 := List.countP_cons_of_pos rfl
          cases ahead with
          | nil =>
              rw [more] at count
              cases count
          | cons first ahead =>
              have front := queues.polled (whole first List.mem_cons_self)
              have others := fun other member =>
                whole other (List.mem_cons_of_mem first member)
              apply inductiveHypothesis front others onward
              rw [more] at count
              exact Nat.succ.inj count

/-- A fragment in front stays there, and the tail of the ring with it, whatever
arrives and however often the stack polls. -/
theorem blocked (queues : interface.Queues [] arrival) (fragment : arrival.whole = false)
    {later : List Operation} (receives : ∀ operation ∈ later, operation.Receives) :
    (interface.after later).Queues [] arrival ∧
      (interface.after later).nic.reg .receiveTail = interface.nic.reg .receiveTail := by
  induction later generalizing interface with
  | nil => exact ⟨queues, rfl⟩
  | cons operation later inductiveHypothesis =>
      have onward := fun other member => receives other (List.mem_cons_of_mem operation member)
      suffices kept : (operation.next interface).Queues [] arrival ∧
          (operation.next interface).nic.reg .receiveTail = interface.nic.reg .receiveTail by
        obtain ⟨stays, tail⟩ := inductiveHypothesis kept.1 onward
        exact ⟨stays, tail.trans kept.2⟩
      obtain ⟨traffic, behind, carries, waiting⟩ := id queues
      cases receives operation List.mem_cons_self with
      | inject frame =>
          rw [Operation.next_inject]
          exact ⟨queues.arrives, carries.receiveTail_deliver frame true⟩
      | injectFragment frame =>
          rw [Operation.next_injectFragment]
          exact ⟨queues.arrives, carries.receiveTail_deliver frame false⟩
      | poll =>
          rw [next_of_poll (poll_fragment carries waiting fragment)]
          exact ⟨queues, rfl⟩

end Queues

/-- Where every frame is whole, polling takes one after the other. -/
theorem after_polls (carries : interface.nic.Carries traffic)
    (whole : ∀ arrival ∈ traffic.waiting, arrival.whole = true) (count : Nat) :
    ∃ later, (interface.after (List.replicate count .poll)).nic.Carries later ∧
      later.waiting = traffic.waiting.drop count := by
  induction count generalizing interface traffic with
  | zero => exact ⟨traffic, carries, rfl⟩
  | succ count inductiveHypothesis =>
      cases waiting : traffic.waiting with
      | nil =>
          obtain ⟨later, onLater, left⟩ := inductiveHypothesis carries whole
          refine ⟨later, ?_, ?_⟩
          · rw [List.replicate_succ, Interface.after, next_of_poll (poll_empty carries waiting)]
            exact onLater
          · rw [left, waiting]
            simp
      | cons oldest rest =>
          have first : oldest.whole = true := by
            apply whole
            rw [waiting]
            exact List.mem_cons_self
          obtain ⟨-, middle, onMiddle, left⟩ := poll_whole carries waiting first
          have others : ∀ arrival ∈ middle.waiting, arrival.whole = true := by
            intro arrival member
            apply whole
            rw [waiting]
            rw [left] at member
            exact List.mem_cons_of_mem oldest member
          obtain ⟨later, onLater, dropped⟩ := inductiveHypothesis onMiddle others
          refine ⟨later, onLater, ?_⟩
          rw [dropped, left, List.drop_succ_cons]

/-- What waits is whole, if every frame ends in the slot that it is in. -/
theorem whole_of_slots (carries : interface.nic.Carries traffic)
    (ended : ∀ index : Fin ringSize, (interface.nic.rings.receive.get index).done = true →
      (interface.nic.rings.receive.get index).endOfPacket = true) :
    ∀ arrival ∈ traffic.waiting, arrival.whole = true := by
  intro arrival member
  obtain ⟨adapter, -, onRig⟩ := carries.rig
  obtain ⟨index, -, done, finished, -⟩ := onRig.receiveQueue.holds_mem member
  exact finished.symm.trans (ended index done)

/-- What is in front, read off its slot. -/
theorem front_slot (carries : interface.nic.Carries traffic)
    (ready : interface.nic.receiveReady = true) :
    ∃ oldest rest, traffic.waiting = oldest :: rest ∧
      interface.nic.receiveSlot.endOfPacket = oldest.whole := by
  rw [carries.receiveReady] at ready
  have held := carries.receiveSlot
  cases waiting : traffic.waiting with
  | nil =>
      rw [waiting] at ready
      cases ready
  | cons oldest rest =>
      rw [waiting] at held
      exact ⟨oldest, rest, rfl, held.2.2.1⟩

/-- A frame that is accepted waits behind those that waited before. -/
theorem queues_accepted {frame : Bytes} (carries : interface.nic.Carries traffic)
    (accepted : ((Nic.inject frame).outcome interface.nic).1 = .ok true) :
    traffic.waiting.length + 1 < ringSize ∧
      ((Operation.inject frame).next interface).Queues traffic.waiting
        ⟨frame.take packetSize, true⟩ := by
  rcases carries.waiting_cases with room | full
  · obtain ⟨arrived, injected, onArrived⟩ := carries.inject frame room
    rw [Operation.next_inject, injected]
    exact ⟨room, traffic.arrive frame true, [], onArrived, rfl⟩
  · have dropped : (Nic.inject frame).outcome interface.nic = (.ok false, interface.nic) :=
      carries.deliver_full frame true full
    rw [dropped] at accepted
    cases accepted

/-- Where every frame is whole, 31 polls leave the ring empty, and ready for
another frame. -/
theorem seen_drained (carries : interface.nic.Carries traffic)
    (whole : ∀ arrival ∈ traffic.waiting, arrival.whole = true) {count : Nat}
    (enough : 31 ≤ count) :
    let drained := interface.after (List.replicate count .poll)
    drained.nic.receiveReady = false ∧
      ∀ frame, ((Nic.inject frame).outcome drained.nic).1 = .ok true := by
  intro drained
  obtain ⟨later, onLater, left⟩ := after_polls carries whole count
  have bound := carries.waiting_cases
  rw [ringSize] at bound
  rw [List.drop_eq_nil_of_le (by omega)] at left
  constructor
  · rw [onLater.receiveReady, left]
    rfl
  · intro frame
    obtain ⟨after, injected, -⟩ := onLater.inject frame (by rw [left]; decide)
    rw [injected]

/-- A frame whose turn has come is in front, and the next poll does about it what
is to be done. -/
theorem Queues.seen_turn {frame : Bytes} (nonempty : frame ≠ [])
    (front : interface.Queues [] ⟨frame.take packetSize, true⟩) :
    interface.nic.front? = some (frame.take packetSize) ∧
      (perform .poll).outcome interface =
        (interface.handling (.ofFrame packetSize (frame.take packetSize))).outcome
          { interface with nic := interface.taken } := by
  obtain ⟨traffic, behind, carries, waiting⟩ := front
  have kept : frame.take packetSize ≠ [] := by
    intro empty
    rcases List.take_eq_nil_iff.mp empty with absurd | none
    · cases absurd
    · exact nonempty none
  have next : traffic.next? = some (frame.take packetSize) := by
    rw [Traffic.next?, waiting]
    exact if_pos ⟨rfl, kept⟩
  exact ⟨carries.front?.trans next, outcome_poll_parcel carries next⟩

/-- What is seen of an interface with a fragment in front. -/
theorem Queues.seen_blocked {fragment : Arrival} (queues : interface.Queues [] fragment)
    (unfinished : fragment.whole = false) :
    interface.nic.receiveReady = true ∧ interface.nic.receiveSlot.endOfPacket = false ∧
      poll.outcome interface = (.ok 0, interface) := by
  obtain ⟨traffic, behind, carries, waiting⟩ := queues
  have ready : interface.nic.receiveReady = true := by
    rw [carries.receiveReady, waiting]
    rfl
  obtain ⟨oldest, rest, same, ended⟩ := front_slot carries ready
  rw [waiting] at same
  cases same
  exact ⟨ready, ended.trans unfinished, poll_fragment carries waiting unfinished⟩

end Interface

namespace Setup

/-- A whole frame never blocks the receive ring, and a fragment always does.
Wherever a run has led, the poll that finds a whole frame in front gives its slot
back, whatever it makes of the frame.  While a fragment is in front, every poll
succeeds without doing anything, whatever arrives behind it, and the slot is not
given back.  If every frame that waits is whole, 31 polls or more leave the ring
empty and ready for another frame; and a frame that arrives then is processed
when at most 30 others have been, whatever arrives in the meantime. -/
theorem whole_frames_drain (setup : Setup) (operations : List Operation) :
    let reached := setup.start.after operations
    (reached.nic.receiveReady = true → reached.nic.receiveSlot.endOfPacket = true →
      reached.nic.Releases (Operation.poll.next reached).nic) ∧
    (reached.nic.receiveReady = true → reached.nic.receiveSlot.endOfPacket = false →
      ∀ later : List Operation, (∀ operation ∈ later, operation.Receives) →
        let stuck := reached.after later
        stuck.nic.receiveReady = true ∧ stuck.nic.receiveSlot.endOfPacket = false ∧
          stuck.nic.reg .receiveTail = reached.nic.reg .receiveTail ∧
          Interface.poll.outcome stuck = (.ok 0, stuck)) ∧
    ((∀ index : Fin ringSize, (reached.nic.rings.receive.get index).done = true →
        (reached.nic.rings.receive.get index).endOfPacket = true) →
      (∀ count, 31 ≤ count →
        let drained := reached.after (List.replicate count .poll)
        drained.nic.receiveReady = false ∧
          ∀ frame, ((Nic.inject frame).outcome drained.nic).1 = .ok true) ∧
      ∀ frame, frame ≠ [] → ((Nic.inject frame).outcome reached.nic).1 = .ok true →
        ∃ ahead, ahead ≤ 30 ∧
          ∀ later : List Operation, (∀ operation ∈ later, operation.Receives) →
            Interface.polls later = ahead →
            let turn := reached.after (.inject frame :: later)
            turn.nic.front? = some (frame.take 2048) ∧
              (Interface.perform .poll).outcome turn =
                (turn.handling (.ofFrame 2048 (frame.take 2048))).outcome
                  { turn with nic := turn.taken }) := by
  intro reached
  have sound : reached.Sound setup.automatic := (setup.sound_after operations).1
  obtain ⟨traffic, carries, -⟩ := sound.wired
  refine ⟨?_, ?_, ?_⟩
  · intro ready ended
    obtain ⟨oldest, rest, waiting, same⟩ := Interface.front_slot carries ready
    exact (Interface.poll_whole carries waiting (same.symm.trans ended)).1
  · intro ready unfinished later receives
    obtain ⟨oldest, rest, waiting, same⟩ := Interface.front_slot carries ready
    have fragment : oldest.whole = false := same.symm.trans unfinished
    have queues : reached.Queues [] oldest := ⟨traffic, rest, carries, waiting⟩
    obtain ⟨stays, tail⟩ := queues.blocked fragment receives
    obtain ⟨stillReady, stillUnfinished, polled⟩ := stays.seen_blocked fragment
    exact ⟨stillReady, stillUnfinished, tail, polled⟩
  · intro slots
    have whole := Interface.whole_of_slots carries slots
    refine ⟨fun count enough => Interface.seen_drained carries whole enough, ?_⟩
    intro frame nonempty accepted
    obtain ⟨room, queues⟩ := Interface.queues_accepted carries accepted
    refine ⟨traffic.waiting.length, by rw [ringSize] at room; omega, ?_⟩
    intro later receives count turn
    have front : turn.Queues [] ⟨frame.take packetSize, true⟩ :=
      queues.after whole receives count
    exact front.seen_turn nonempty

/-- A fragment of one byte on a fresh adapter: it is ready, a poll leaves
everything as it is, and it is still ready after 31 of them; and a frame that
arrives behind it is not in front by then. -/
theorem fragment_blocks :
    let fragmented := (Setup.default true).start.after [.injectFragment [0]]
    fragmented.nic.receiveReady = true ∧
      Interface.poll.outcome fragmented = (.ok 0, fragmented) ∧
      (fragmented.after (List.replicate 31 .poll)).nic.receiveReady = true ∧
      (fragmented.after (.inject [1] :: List.replicate 31 .poll)).nic.front? = none := by
  intro fragmented
  obtain ⟨nic, delivered, onNic⟩ :=
    (Setup.default true).carries_start.deliver [0] false (by decide)
  have queues : fragmented.Queues [] ⟨[0], false⟩ := by
    refine ⟨(Traffic.none true).arrive [0] false, [], ?_, rfl⟩
    have arrives : fragmented.nic = nic := congrArg Prod.snd delivered
    rw [arrives]
    exact onNic
  have polling : ∀ operation ∈ List.replicate 31 Operation.poll, operation.Receives := by
    intro operation member
    rw [List.eq_of_mem_replicate member]
    exact .poll
  have joined : ∀ operation ∈ .inject [1] :: List.replicate 31 Operation.poll,
      operation.Receives := by
    intro operation member
    rcases List.mem_cons.mp member with rfl | polls
    · exact .inject [1]
    · exact polling operation polls
  obtain ⟨ready, -, polled⟩ := queues.seen_blocked rfl
  obtain ⟨still, -, -⟩ := (queues.blocked rfl polling).1.seen_blocked rfl
  obtain ⟨traffic, behind, carries, waiting⟩ := (queues.blocked rfl joined).1
  refine ⟨ready, polled, still, ?_⟩
  rw [carries.front?, Traffic.next?, waiting]
  rfl

end Setup

end NetStack
