/-
Module: NetStack.Proofs.ReceiveFifo
Purpose: The receive ring as a queue of whole frames, over every run of arrivals
  and receptions.
Main exports:
  Nic.RingUse, Nic.Ledger, Nic.Ledger.use, Nic.Ledger.Agrees,
  Nic.Ledger.Agrees.use, Setup.receive_ring_is_fifo
-/
import NetStack.Proofs.Run

namespace NetStack

namespace Nic

/-!
A ledger is kept beside the ring, by somebody who sees only what the ring
answers: which frames it said yes to, and how often a frame was there to be
received.  What the ring holds is never looked at.  The ring agrees with its
ledger at every moment, so a frame that was accepted comes out once, in its
turn, and as it went in.
-/

/-- What is done to a receive ring from its two ends. -/
inductive RingUse where
  /-- A frame arrives. -/
  | inject (frame : Bytes)
  /-- The stack receives a frame into a buffer. -/
  | receive (buffer : Bytes)

/-- An adapter, and what its receive ring answered up to now. -/
structure Ledger where
  nic : Nic
  /-- The frames accepted, oldest first. -/
  accepted : List Bytes
  /-- How often a frame was there to be received. -/
  taken : Nat

namespace Ledger

/-- Nothing has arrived. -/
def opened (nic : Nic) : Ledger :=
  { nic, accepted := [], taken := 0 }

/-- Use the ring once, and write down what it answers. -/
def use (ledger : Ledger) : RingUse → Ledger
  | .inject frame =>
      let done := (Nic.inject frame).outcome ledger.nic
      { ledger with
        nic := done.2
        accepted :=
          match done.1 with
          | .ok true => ledger.accepted ++ [frame]
          | _ => ledger.accepted }
  | .receive buffer =>
      { ledger with
        nic := ((Nic.receive buffer).outcome ledger.nic).2
        taken := if ledger.nic.receiveReady then ledger.taken + 1 else ledger.taken }

/-- The frames accepted and not yet received, oldest first. -/
def waiting (ledger : Ledger) : List Bytes :=
  ledger.accepted.drop ledger.taken

/-- The traffic of an adapter that is used for receiving only. -/
def traffic (ledger : Ledger) (automatic : Bool) : Traffic :=
  { Traffic.none automatic with
    waiting := ledger.waiting.map fun frame => ⟨frame.take packetSize, true⟩ }

/-- The ring holds what the ledger says. -/
structure Agrees (ledger : Ledger) (automatic : Bool) : Prop where
  carries : ledger.nic.Carries (ledger.traffic automatic)
  counted : ledger.taken ≤ ledger.accepted.length

variable {ledger : Ledger} {automatic : Bool}

@[simp] theorem length_waiting_traffic (ledger : Ledger) (automatic : Bool) :
    (ledger.traffic automatic).waiting.length = ledger.waiting.length :=
  List.length_map _

namespace Agrees

theorem length_waiting_le (agrees : ledger.Agrees automatic) : ledger.waiting.length ≤ 31 := by
  have cases := agrees.carries.waiting_cases
  rw [length_waiting_traffic, ringSize] at cases
  omega

theorem receiveReady (agrees : ledger.Agrees automatic) :
    ledger.nic.receiveReady = !ledger.waiting.isEmpty := by
  rw [agrees.carries.receiveReady, traffic]
  cases ledger.waiting <;> rfl

/-- One more frame is accepted while fewer than 31 wait. -/
theorem inject_room (agrees : ledger.Agrees automatic) (room : ledger.waiting.length < 31)
    (frame : Bytes) :
    ∃ after, (Nic.inject frame).outcome ledger.nic = (.ok true, after) ∧
      after.Carries ((ledger.traffic automatic).arrive frame true) := by
  apply agrees.carries.inject
  rw [length_waiting_traffic, ringSize]
  omega

/-- The next one is dropped without a trace. -/
theorem inject_full (agrees : ledger.Agrees automatic) (full : ¬ledger.waiting.length < 31)
    (frame : Bytes) :
    (Nic.inject frame).outcome ledger.nic = (.ok false, ledger.nic) := by
  have bound := agrees.length_waiting_le
  apply agrees.carries.deliver_full
  rw [length_waiting_traffic, ringSize]
  omega

/-- Nothing comes out of an empty ring. -/
theorem receive_empty (agrees : ledger.Agrees automatic) (empty : ledger.waiting = [])
    (buffer : Bytes) :
    (Nic.receive buffer).outcome ledger.nic = (.ok { length := 0, buffer }, ledger.nic) := by
  apply agrees.carries.receive_none
  rw [traffic, empty]
  rfl

/-- The oldest frame comes out, as far as the buffers have room for it. -/
theorem receive_oldest (agrees : ledger.Agrees automatic) {oldest : Bytes} {rest : List Bytes}
    (waiting : ledger.waiting = oldest :: rest) (buffer : Bytes) :
    let count := min oldest.length (min buffer.length packetSize)
    ∃ after,
      (Nic.receive buffer).outcome ledger.nic =
        (.ok { length := count, buffer := oldest.take count ++ buffer.drop count }, after) ∧
      after.Carries
        { ledger.traffic automatic with
          waiting := rest.map fun frame => ⟨frame.take packetSize, true⟩ } := by
  intro count
  have front : (ledger.traffic automatic).waiting =
      ⟨oldest.take packetSize, true⟩ :: rest.map fun frame => ⟨frame.take packetSize, true⟩ := by
    rw [traffic, waiting]
    rfl
  obtain ⟨after, received, onAfter⟩ := agrees.carries.receive_whole buffer front rfl
  have length : min (oldest.take packetSize).length buffer.length = count := by
    rw [List.length_take]
    omega
  have copied : (oldest.take packetSize).take buffer.length = oldest.take count := by
    rw [List.take_take]
    exact List.take_eq_take_min.trans (congrArg oldest.take (by omega))
  rw [length, copied] at received
  exact ⟨after, received, onAfter⟩

/-- A reception takes the oldest frame off the ledger, if there is one. -/
theorem waiting_receive (agrees : ledger.Agrees automatic) (buffer : Bytes) :
    (ledger.use (.receive buffer)).waiting = ledger.waiting.tail := by
  rw [waiting, use, agrees.receiveReady]
  dsimp only
  cases waiting : ledger.waiting with
  | nil => exact waiting
  | cons oldest rest =>
      have next : ledger.accepted.drop (ledger.taken + 1) = ledger.waiting.tail :=
        List.tail_drop.symm
      rw [waiting] at next
      exact next

/-- The ring and its ledger go on agreeing, whatever is done. -/
theorem use (agrees : ledger.Agrees automatic) (ringUse : RingUse) :
    (ledger.use ringUse).Agrees automatic := by
  cases ringUse with
  | inject frame =>
      by_cases room : ledger.waiting.length < 31
      · obtain ⟨after, injected, onAfter⟩ := agrees.inject_room room frame
        have becomes : ledger.use (.inject frame) =
            { ledger with nic := after, accepted := ledger.accepted ++ [frame] } := by
          rw [Ledger.use, injected]
        rw [becomes]
        constructor
        · have longer : (ledger.accepted ++ [frame]).drop ledger.taken =
              ledger.waiting ++ [frame] := List.drop_append_of_le_length agrees.counted
          rw [traffic, waiting]
          dsimp only
          rw [longer, List.map_append]
          exact onAfter
        · rw [List.length_append]
          exact Nat.le_add_right_of_le agrees.counted
      · have becomes : ledger.use (.inject frame) = ledger := by
          rw [Ledger.use, agrees.inject_full room frame]
        rw [becomes]
        exact agrees
  | receive buffer =>
      cases waiting : ledger.waiting with
      | nil =>
          have becomes : ledger.use (.receive buffer) = ledger := by
            rw [Ledger.use, agrees.receive_empty waiting buffer, agrees.receiveReady, waiting]
            rfl
          rw [becomes]
          exact agrees
      | cons oldest rest =>
          obtain ⟨after, received, onAfter⟩ := agrees.receive_oldest waiting buffer
          have left := agrees.waiting_receive buffer
          rw [waiting] at left
          constructor
          · rw [traffic, left, Ledger.use, received]
            exact onAfter
          · have unread : 0 < (ledger.accepted.drop ledger.taken).length := by
              rw [show ledger.accepted.drop ledger.taken = oldest :: rest from waiting]
              exact Nat.zero_lt_succ _
            rw [List.length_drop] at unread
            rw [Ledger.use, agrees.receiveReady, waiting]
            show ledger.taken + 1 ≤ ledger.accepted.length
            omega

/-- From head to tail round the ring, less the slot that is never filled, it is
as far as frames wait. -/
theorem distance (agrees : ledger.Agrees automatic) :
    (((ledger.nic.reg .receiveHead).toNat : Int) - (ledger.nic.reg .receiveTail).toNat - 1) % 32 =
      ledger.waiting.length := by
  obtain ⟨adapter, software, onRig⟩ := agrees.carries.rig
  have head : (adapter.file.reg .receiveHead).toNat % 32 =
      ((adapter.file.reg .receiveTail).toNat + 1 +
        (ledger.traffic automatic).waiting.length) % 32 := onRig.receiveHead
  have bound := agrees.length_waiting_le
  rw [length_waiting_traffic] at head
  rw [reg, reg, software]
  dsimp only
  omega

end Agrees

end Ledger

end Nic

namespace Setup

open Nic (RingUse Ledger)

theorem agrees_after (setup : Setup) (uses : List RingUse) :
    (uses.foldl Ledger.use (.opened setup.start.nic)).Agrees setup.automatic := by
  have start : (Ledger.opened setup.start.nic).Agrees setup.automatic :=
    ⟨setup.carries_start, Nat.le_refl 0⟩
  -- the ledger is kept from use to use, so the induction is over runs from any agreement
  suffices runs : ∀ ledger : Ledger, ledger.Agrees setup.automatic →
      (uses.foldl Ledger.use ledger).Agrees setup.automatic from runs _ start
  induction uses with
  | nil => exact fun _ agrees => agrees
  | cons first uses inductiveHypothesis =>
      intro ledger agrees
      exact inductiveHypothesis _ (agrees.use first)

/-- The receive ring is a queue of 31 frames that loses, doubles, reorders and
mixes nothing.  After every run of arrivals and receptions on a fresh adapter:
at most 31 of the accepted frames are still to be received; a frame is accepted
when it is fewer, and changes nothing otherwise; a reception copies the oldest
of them, as far as the packet buffer and the caller's buffer have room, and only
that one is gone; a reception while there is none does nothing; the stack sees
that a frame is ready exactly when there is one; and the registers tell how many
there are. -/
theorem receive_ring_is_fifo (setup : Setup) (uses : List RingUse) :
    let reached := uses.foldl Ledger.use (.opened setup.start.nic)
    reached.taken ≤ reached.accepted.length ∧
      reached.waiting.length ≤ 31 ∧
      (∀ frame,
        ((Nic.inject frame).outcome reached.nic).1 = .ok (decide (reached.waiting.length < 31)) ∧
          (reached.waiting.length = 31 →
            (Nic.inject frame).outcome reached.nic = (.ok false, reached.nic))) ∧
      (∀ buffer oldest rest, reached.waiting = oldest :: rest →
        let count := min oldest.length (min buffer.length 2048)
        ((Nic.receive buffer).outcome reached.nic).1 =
            .ok { length := count, buffer := oldest.take count ++ buffer.drop count } ∧
          (reached.use (.receive buffer)).waiting = rest) ∧
      (∀ buffer, reached.waiting = [] →
        (Nic.receive buffer).outcome reached.nic = (.ok { length := 0, buffer }, reached.nic)) ∧
      reached.nic.receiveReady = !reached.waiting.isEmpty ∧
      (((reached.nic.reg .receiveHead).toNat : Int) -
          (reached.nic.reg .receiveTail).toNat - 1) % 32 = reached.waiting.length := by
  intro reached
  have agrees : reached.Agrees setup.automatic := setup.agrees_after uses
  refine ⟨agrees.counted, agrees.length_waiting_le, ?_, ?_, ?_, agrees.receiveReady,
    agrees.distance⟩
  · intro frame
    constructor
    · by_cases room : reached.waiting.length < 31
      · obtain ⟨after, injected, -⟩ := agrees.inject_room room frame
        rw [injected, decide_eq_true room]
      · rw [agrees.inject_full room frame, decide_eq_false room]
    · intro full
      exact agrees.inject_full (by omega) frame
  · intro buffer oldest rest waiting count
    constructor
    · obtain ⟨after, received, -⟩ := agrees.receive_oldest waiting buffer
      rw [received]
      rfl
    · rw [agrees.waiting_receive, waiting]
      rfl
  · intro buffer empty
    exact agrees.receive_empty empty buffer

end Setup

end NetStack
