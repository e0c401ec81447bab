/-
Module: NetStack.Proofs.Batching
Purpose: Frames that arrive together are dealt with as frames that arrive one by one.
Main exports:
  Arrival.ofFrame, Interface.admissions, Interface.Polled, Interface.pollings,
  Interface.Awaits, Interface.Awaits.inject, Interface.Awaits.poll,
  Interface.Awaits.pollings, Setup.batching_changes_nothing
-/
import NetStack.Proofs.Draining
import NetStack.Proofs.Strangers

namespace NetStack

open Interface (Operation)

/-!
Frames that wait in the receive ring are out of reach of everything that is done about the
frames ahead of them.  So two interfaces are compared while frames are polled: on the one
all of them wait, and to the other each is still to be delivered.  The two send alike, and
differ in nothing but the receive ring, before and after each frame.
-/

/-- A frame as the receive ring holds it once it arrived whole. -/
def Arrival.ofFrame (frame : Bytes) : Arrival :=
  ⟨frame.take packetSize, true⟩

namespace Interface

variable {batch single : Interface} {frame : Bytes} {waiting frames : List Bytes}

/-! ## What the two ways of delivery answer -/

/-- Whether the adapter takes frames that arrive together, each in its turn. -/
def admissions (interface : Interface) : List Bytes → List (Except Failure Bool)
  | [] => []
  | frame :: frames =>
      ((onNic (Nic.inject frame)).outcome interface).1 ::
        admissions ((Operation.inject frame).next interface) frames

/-- What comes of one poll. -/
structure Polled where
  answer : Except Failure Nat
  sent : List Bytes

/-- What comes of polling so many times. -/
def pollings (interface : Interface) : Nat → List Polled
  | 0 => []
  | count + 1 =>
      ⟨(poll.outcome interface).1, Operation.poll.emitted interface⟩ ::
        pollings (Operation.poll.next interface) count

/-- What comes of the poll for a frame that is delivered. -/
def Receipt.polled (receipt : Receipt) : Polled :=
  ⟨receipt.answer, receipt.sent⟩

theorem emissions_polls (interface : Interface) (count : Nat) :
    interface.emissions (List.replicate count .poll) =
      (interface.pollings count).flatMap Polled.sent := by
  induction count generalizing interface with
  | zero => rfl
  | succ count inductiveHypothesis =>
      rw [pollings, List.flatMap_cons, ← inductiveHypothesis]
      rfl

/-- A resting interface takes every frame that is delivered. -/
theorem Resting.accepted_receipts (resting : single.Resting) (frames : List Bytes) :
    (single.receipts frames).map Receipt.accepted = frames.map fun _ => .ok true := by
  induction frames generalizing single with
  | nil => rfl
  | cons frame frames inductiveHypothesis =>
      obtain ⟨received, -⟩ := resting.delivery frame
      rw [receipts, List.map_cons, List.map_cons, received,
        inductiveHypothesis (resting.after_delivery frame)]

/-- An empty frame leaves no trace but in the receive ring. -/
theorem Resting.passes_empty (resting : single.Resting) :
    single.SendsAlike (single.after (deliveries [[]])) := by
  have nothing : Parcel.arriving [] = .foreign := if_pos rfl
  obtain ⟨traffic, carries, -, empty⟩ := resting.sound.at_rest resting.idle
  obtain ⟨through, -⟩ := relayed_sendsAlike carries empty []
  obtain ⟨-, left, -⟩ := resting.delivery []
  rw [nothing] at left
  have passed : single.after (deliveries [[]]) = _ := left
  rw [passed]
  exact ⟨rfl, rfl, rfl, rfl, through⟩

/-! ## Frames that wait and frames to come -/

/-- On the one interface these frames wait, and to the other they are still to be
delivered; apart from that the two are alike. -/
structure Awaits (batch single : Interface) (waiting : List Bytes) : Prop where
  sound : batch.Sound true
  waits : ∃ traffic, batch.nic.Carries traffic ∧ traffic.waiting = waiting.map .ofFrame
  resting : single.Resting
  alike : SendsAlike single batch

namespace Awaits

theorem carries (awaits : Awaits batch single waiting) :
    ∃ traffic, batch.nic.Carries traffic ∧ traffic.automatic = true ∧
      traffic.waiting = waiting.map .ofFrame := by
  obtain ⟨traffic, carries, waits⟩ := awaits.waits
  obtain ⟨other, alsoCarries, running⟩ := awaits.sound.wired
  exact ⟨traffic, carries, (carries.automatic_eq alsoCarries).trans running, waits⟩

theorem of_resting (resting : single.Resting) : Awaits single single [] := by
  obtain ⟨traffic, carries, -, empty⟩ := resting.sound.at_rest resting.idle
  exact ⟨resting.sound, ⟨traffic, carries, empty⟩, resting, .refl resting.sound⟩

/-- One more frame may join those that wait while they are fewer than 31, and nothing is
sent for it yet. -/
theorem inject (awaits : Awaits batch single waiting) (few : waiting.length < 31)
    (frame : Bytes) :
    ((onNic (Nic.inject frame)).outcome batch).1 = .ok true ∧
      (Operation.inject frame).emitted batch = [] ∧
      Awaits ((Operation.inject frame).next batch) single (waiting ++ [frame]) := by
  obtain ⟨traffic, carries, -, waits⟩ := awaits.carries
  have room : traffic.waiting.length + 1 < ringSize := by
    rw [waits, List.length_map]
    exact Nat.succ_lt_succ few
  obtain ⟨arrived, injected, onArrived⟩ := carries.inject frame room
  have joined := carries.sendsAlike_inject frame
  have next : (Operation.inject frame).next batch = { batch with nic := arrived } := by
    rw [Operation.next_inject, injected]
  rw [injected] at joined
  refine ⟨?_, ?_, awaits.sound.next _, ?_, awaits.resting, ?_⟩
  · rw [outcome_onNic, injected]
  · rw [Operation.emitted, next, joined.sent, List.drop_length]
  · rw [next]
    refine ⟨_, onArrived, ?_⟩
    rw [Traffic.arrive, waits, List.map_append]
    rfl
  · rw [next]
    have alike := awaits.alike
    exact ⟨alike.config, alike.cache, alike.pool, alike.identification,
      alike.nic.trans joined⟩

/-- As many may join as there is room for. -/
theorem injects (awaits : Awaits batch single waiting)
    (few : waiting.length + frames.length ≤ 31) :
    batch.admissions frames = (frames.map fun _ => .ok true) ∧
      batch.emissions (frames.map .inject) = [] ∧
      Awaits (batch.after (frames.map .inject)) single (waiting ++ frames) := by
  induction frames generalizing batch waiting with
  | nil =>
      rw [List.append_nil]
      exact ⟨rfl, rfl, awaits⟩
  | cons frame frames inductiveHypothesis =>
      rw [List.length_cons] at few
      obtain ⟨accepted, silent, joined⟩ := awaits.inject (by omega) frame
      have fewer : (waiting ++ [frame]).length + frames.length ≤ 31 := by
        rw [List.length_append, List.length_singleton]
        omega
      obtain ⟨admitted, quiet, all⟩ := inductiveHypothesis joined fewer
      rw [List.append_assoc] at all
      refine ⟨?_, ?_, all⟩
      · rw [admissions, accepted, admitted]
        rfl
      · have first : batch.emissions ([.inject frame] ++ frames.map .inject) =
            batch.emissions [.inject frame] ++
              ((Operation.inject frame).next batch).emissions (frames.map .inject) :=
          batch.emissions_append _ _
        rw [quiet, List.append_nil] at first
        exact first.trans ((List.append_nil _).trans silent)

/-- The same comes of the frame in front as of its delivery. -/
theorem poll (awaits : Awaits batch single (frame :: frames)) :
    (Interface.poll.outcome batch).1 = (single.receipt frame).answer ∧
      Operation.poll.emitted batch = (single.receipt frame).sent ∧
      Awaits (Operation.poll.next batch) (single.after [.inject frame, .poll]) frames := by
  obtain ⟨traffic, carries, running, waits⟩ := awaits.carries
  obtain ⟨singleTraffic, singleCarries, -, empty⟩ :=
    awaits.resting.sound.at_rest awaits.resting.idle
  have alike := awaits.alike
  let handling := single.handling (.arriving frame)
  have same : batch.handling (.arriving frame) = handling := by
    rw [alike.eq, handling_nic]
  have memory : batch.memory = single.memory := by
    rw [alike.eq]
    rfl
  obtain ⟨handed, onTaken⟩ : batch.nic.HandsBack batch.taken ∧
      batch.taken.Carries { traffic with waiting := frames.map .ofFrame } :=
    carries.receive_front waits rfl (.zeros packetSize)
  obtain ⟨handled, sent, later, onLater, left⟩ :=
    Handling.outcome_running carries running onTaken handling
  have polled := outcome_poll_front carries waits
  rw [same, handled, memory] at polled
  have next := next_of_poll polled
  obtain ⟨delivered, after, -⟩ := awaits.resting.delivery frame
  obtain ⟨through, onRelayed⟩ := relayed_sendsAlike singleCarries empty frame
  rw [delivered]
  refine ⟨?_, ?_, awaits.sound.next _, ?_, awaits.resting.after_delivery frame, ?_⟩
  · rw [polled]
  · rw [Operation.emitted, next, sent, List.drop_left]
  · rw [next]
    exact ⟨later, onLater, left⟩
  · have nics : (single.relayed frame).SendsAlike batch.taken :=
      through.symm.trans (alike.nic.trans handed.sends)
    rw [next, after]
    exact ⟨alike.config, rfl, rfl, rfl, Handling.leaving_congr nics onRelayed handling⟩

/-- The same comes of all that wait as of their deliveries. -/
theorem polls (awaits : Awaits batch single frames) :
    batch.pollings frames.length = (single.receipts frames).map Receipt.polled ∧
      Awaits (batch.after (List.replicate frames.length .poll))
        (single.after (deliveries frames)) [] := by
  induction frames generalizing batch single with
  | nil => exact ⟨rfl, awaits⟩
  | cons frame frames inductiveHypothesis =>
      obtain ⟨answered, sent, rest⟩ := awaits.poll
      obtain ⟨pollings, last⟩ := inductiveHypothesis rest
      refine ⟨?_, last⟩
      rw [List.length_cons, Interface.pollings, answered, sent, pollings]
      rfl

end Awaits

end Interface

namespace Setup

/-- Batching changes nothing.  Wherever a run has led on a running adapter, if no frame
waits, up to 31 frames of any content may arrive together and be polled afterwards: all of
them are taken, each poll answers and sends what the poll after its arrival would have,
and in the end the two ways leave the same channels, the same table, the same number for
the next packet, and the same frames sent. -/
theorem batching_changes_nothing (setup : Setup) (running : setup.automatic = true)
    (operations : List Operation)
    (idle : (setup.start.after operations).nic.receiveReady = false) (frames : List Bytes)
    (few : frames.length ≤ 31) :
    let reached := setup.start.after operations
    let arrivals : List Operation := frames.map .inject
    let polls : List Operation := List.replicate frames.length .poll
    let batched := reached.after (arrivals ++ polls)
    let delivered := reached.after (Interface.deliveries frames)
    reached.admissions frames = (reached.receipts frames).map Interface.Receipt.accepted ∧
      (reached.after arrivals).pollings frames.length =
        (reached.receipts frames).map Interface.Receipt.polled ∧
      reached.emissions (arrivals ++ polls) =
        reached.emissions (Interface.deliveries frames) ∧
      batched.nic.sent = delivered.nic.sent ∧
      batched.pool = delivered.pool ∧ batched.cache = delivered.cache ∧
      batched.identification = delivered.identification ∧
      batched.config = delivered.config ∧
      batched.nic.receiveReady = false ∧ delivered.nic.receiveReady = false := by
  intro reached arrivals polls batched delivered
  have resting : reached.Resting := setup.resting_after running operations idle
  obtain ⟨admitted, silent, awaits⟩ :=
    (Interface.Awaits.of_resting resting).injects (by simpa using few)
  rw [List.nil_append] at awaits
  obtain ⟨pollings, last⟩ := awaits.polls
  obtain ⟨traffic, carries, -, empty⟩ := last.carries
  rw [← Interface.after_append] at carries last
  have alike := last.alike
  refine ⟨?_, pollings, ?_, alike.nic.sent, alike.pool, alike.cache, alike.identification,
    alike.config, ?_, last.resting.idle⟩
  · rw [admitted, resting.accepted_receipts]
  · rw [Interface.emissions_append, silent, Interface.emissions_polls, pollings,
      Interface.emissions_deliveries, List.flatMap_map]
    rfl
  · rw [carries.receiveReady, empty]
    rfl

/-- An opening and an empty frame that arrive together open the web channel. -/
theorem batching_changes_nothing_for_opening :
    let start := (Setup.default true).start
    let batch : List Operation := [.inject (openingTo 80), .inject [], .poll, .poll]
    start.nic.receiveReady = false ∧
      (((start.after batch).pool.get Tcp.Pool.web).state = .synReceived ∧
        start.emissions batch =
          start.emissions [.inject (openingTo 80), .poll, .inject [], .poll]) := by
  intro start batch
  have idle : start.nic.receiveReady = false := (Setup.default true).carries_start.receiveReady
  obtain ⟨-, -, sent, -, pool, -⟩ :=
    batching_changes_nothing (Setup.default true) rfl [] idle [openingTo 80, []] (by simp)
  obtain ⟨resting, opened⟩ := opened_web
  have passed : (start.after (Interface.deliveries [openingTo 80, []])).pool =
      (start.after (Interface.deliveries [openingTo 80])).pool := by
    have both := start.after_deliveries_append [openingTo 80] [[]]
    exact (congrArg Interface.pool both).trans resting.passes_empty.pool
  refine ⟨idle, ?_, sent⟩
  have together : (start.after batch).pool =
      (start.after (Interface.deliveries [openingTo 80, []])).pool := pool
  rw [together, passed, opened]

end Setup

end NetStack
