/-
Module: NetStack.Proofs.Adapter.Parallel
Purpose: Two adapters side by side that receive the same frames and send frames that are
  alike, and that whatever is done to both keeps them so.
Main exports:
  Traffic.Parallel, Nic.Timeless, Nic.Parallel, Nic.Parallel.transmit,
  Nic.Parallel.receive, Nic.Parallel.awaitReceive, Nic.Parallel.outbox
-/
import Mathlib.Data.List.Forall2
import NetStack.Proofs.Processing

namespace NetStack

/-!
What an adapter does never depends on the bytes of the frames that are on their way out,
only on how many there are.  So two adapters keep pace whose frames differ only there.
The clocks keep pace too, for only waiting reads them, and how long a wait takes depends
on what has arrived.
-/

variable {alike : Bytes → Bytes → Prop}

/-- Traffic that differs in the frames on their way out alone, and there one by one no
more than frames that are alike. -/
structure Traffic.Parallel (alike : Bytes → Bytes → Prop) (traffic other : Traffic) : Prop where
  automatic : other.automatic = traffic.automatic
  waiting : other.waiting = traffic.waiting
  pending : List.Forall₂ alike traffic.pending other.pending
  sent : List.Forall₂ alike traffic.sent other.sent

namespace Traffic.Parallel

variable {traffic other : Traffic}

theorem outbound (parallel : traffic.Parallel alike other) :
    List.Forall₂ alike traffic.outbound other.outbound :=
  List.rel_append parallel.sent parallel.pending

theorem next?_eq (parallel : traffic.Parallel alike other) : other.next? = traffic.next? := by
  rw [next?, next?, parallel.waiting]

theorem hasRoom_eq (parallel : traffic.Parallel alike other) :
    other.hasRoom = traffic.hasRoom := by
  rw [hasRoom, hasRoom, parallel.pending.length_eq]

theorem arrive (parallel : traffic.Parallel alike other) (frame : Bytes) (whole : Bool) :
    (traffic.arrive frame whole).Parallel alike (other.arrive frame whole) := by
  refine { parallel with waiting := ?_ }
  rw [Traffic.arrive, Traffic.arrive, parallel.waiting]

theorem advance (parallel : traffic.Parallel alike other) (waiting : List Arrival) :
    Traffic.Parallel alike { traffic with waiting } { other with waiting } :=
  { parallel with waiting := rfl }

theorem flush (parallel : traffic.Parallel alike other) :
    traffic.flush.Parallel alike other.flush :=
  { parallel with pending := .nil, sent := parallel.outbound }

theorem enqueue (parallel : traffic.Parallel alike other) {frame again : Bytes}
    (resembles : alike frame again) :
    (traffic.enqueue frame).Parallel alike (other.enqueue again) := by
  have queued : Traffic.Parallel alike { traffic with pending := traffic.pending ++ [frame] }
      { other with pending := other.pending ++ [again] } :=
    { parallel with pending := List.rel_append parallel.pending (.cons resembles .nil) }
  unfold Traffic.enqueue
  dsimp only
  by_cases running : traffic.automatic = true
  · rw [if_pos running, if_pos (parallel.automatic.trans running)]
    exact queued.flush
  · rw [if_neg running, if_neg (parallel.automatic ▸ running)]
    exact queued

theorem takeSent (parallel : traffic.Parallel alike other) :
    Traffic.Parallel alike { traffic with sent := traffic.sent.tail }
      { other with sent := other.sent.tail } := by
  refine { parallel with sent := ?_ }
  rw [← List.drop_one, ← List.drop_one]
  exact List.forall₂_drop 1 parallel.sent

theorem drainSent (parallel : traffic.Parallel alike other) :
    Traffic.Parallel alike { traffic with sent := [] } { other with sent := [] } :=
  { parallel with sent := .nil }

end Traffic.Parallel

namespace Nic

/-! ## Operations that do not read the clock -/

section Timeless

variable {α β : Type}

/-- An operation that leaves the clock alone. -/
def Timeless (action : Action Nic α) : Prop :=
  ∀ nic, (action.outcome nic).2.clock = nic.clock

theorem timeless_pure (value : α) : Timeless (pure value) := fun _ => rfl

theorem timeless_get : Timeless Action.get := fun _ => rfl

theorem timeless_emit (event : Event) : Timeless (Action.emit event) := fun _ => rfl

theorem timeless_refuse (cause : StackError) : Timeless (Action.refuse cause : Action Nic α) :=
  fun _ => rfl

theorem timeless_check (made : Except Fault α) : Timeless (Action.check made) := by
  intro nic
  cases made <;> rfl

theorem Timeless.bind {action : Action Nic α} {next : α → Action Nic β}
    (timeless : Timeless action) (onward : ∀ value, Timeless (next value)) :
    Timeless (action >>= next) := by
  intro nic
  have kept := timeless nic
  rcases done : action.outcome nic with ⟨answer, middle⟩
  rw [done] at kept
  cases answer with
  | ok value =>
      rw [Action.outcome_bind_of_ok done]
      exact (onward value middle).trans kept
  | error failure =>
      rw [Action.outcome_bind_of_error done]
      exact kept

theorem timeless_onSoftware (otherwise : α) (action : Action (Rig ringSize) α) :
    Timeless (onSoftware otherwise action) := by
  intro nic
  rw [← Action.state_eq]
  unfold onSoftware
  cases nic.adapter <;> rfl

theorem timeless_setReg (register : Register) (value : UInt32) :
    Timeless (setReg register value) := by
  intro nic
  rw [← Action.state_eq]
  unfold setReg
  cases found : nic.adapter with
  | software adapter => exact timeless_onSoftware _ _ nic
  | mapped window => rfl

theorem timeless_transmit (frame : Bytes) : Timeless (Nic.transmit frame) := by
  unfold Nic.transmit
  apply timeless_get.bind
  intro nic
  split
  · refine (timeless_check _).bind fun buffer => ?_
    have placed : Timeless (setTransmitSlot nic.transmitIndex
        { buffer, length := (frame.take packetSize).length, done := false }) := fun _ => rfl
    exact placed.bind fun _ => timeless_setReg _ _
  · exact (timeless_emit _).bind fun _ => timeless_refuse _

theorem timeless_receive (buffer : Bytes) : Timeless (Nic.receive buffer) := by
  unfold Nic.receive
  apply timeless_get.bind
  intro nic
  dsimp only
  split
  · exact (timeless_emit _).bind fun _ => timeless_pure _
  · split
    · exact (timeless_emit _).bind fun _ => timeless_pure _
    · refine (timeless_check _).bind fun frame => (timeless_check _).bind fun buffer => ?_
      have released : Timeless (setReceiveSlot nic.receiveIndex nic.receiveSlot.release) :=
        fun _ => rfl
      exact released.bind fun _ => (timeless_setReg _ _).bind fun _ => timeless_pure _

end Timeless

/-! ## Side by side -/

/-- Adapters at the same time, with traffic that is parallel. -/
structure Parallel (alike : Bytes → Bytes → Prop) (nic other : Nic) : Prop where
  clock : other.clock = nic.clock
  traffic : ∃ traffic later, nic.Carries traffic ∧ other.Carries later ∧
    traffic.Parallel alike later

namespace Parallel

variable {nic other : Nic}

theorem refl {traffic : Traffic} (carries : nic.Carries traffic)
    (reflexive : ∀ frame, alike frame frame) : nic.Parallel alike nic where
  clock := rfl
  traffic := ⟨traffic, traffic, carries, carries, rfl, rfl,
    List.forall₂_same.mpr fun frame _ => reflexive frame,
    List.forall₂_same.mpr fun frame _ => reflexive frame⟩

theorem front?_eq (parallel : nic.Parallel alike other) : other.front? = nic.front? := by
  obtain ⟨traffic, later, carries, onOther, both⟩ := parallel.traffic
  rw [carries.front?, onOther.front?, both.next?_eq]

theorem receiveReady_eq (parallel : nic.Parallel alike other) :
    other.receiveReady = nic.receiveReady := by
  obtain ⟨traffic, later, carries, onOther, both⟩ := parallel.traffic
  rw [carries.receiveReady, onOther.receiveReady, both.waiting]

theorem sent (parallel : nic.Parallel alike other) : List.Forall₂ alike nic.sent other.sent := by
  obtain ⟨traffic, later, carries, onOther, both⟩ := parallel.traffic
  rw [carries.sent, onOther.sent]
  exact both.sent

theorem outbox (parallel : nic.Parallel alike other) :
    List.Forall₂ alike nic.outbox other.outbox := by
  obtain ⟨traffic, later, carries, onOther, both⟩ := parallel.traffic
  rw [carries.outbox, onOther.outbox]
  exact both.outbound

/-- What succeeds on both adapters without a look at the clock, and leaves parallel
traffic, leaves parallel adapters. -/
theorem of_carries {α β : Type} {action : Action Nic α} {again : Action Nic β}
    (parallel : nic.Parallel alike other) (timeless : Timeless action)
    (timelessAgain : Timeless again) {traffic later : Traffic}
    (onNic : (action.outcome nic).2.Carries traffic)
    (onOther : (again.outcome other).2.Carries later) (both : traffic.Parallel alike later) :
    (action.outcome nic).2.Parallel alike (again.outcome other).2 where
  clock := by rw [timeless nic, timelessAgain other, parallel.clock]
  traffic := ⟨traffic, later, onNic, onOther, both⟩

/-- A frame finds room on both adapters or on neither. -/
theorem transmit (parallel : nic.Parallel alike other) {frame again : Bytes}
    (resembles : alike (frame.take packetSize) (again.take packetSize)) :
    ((Nic.transmit again).outcome other).1 = ((Nic.transmit frame).outcome nic).1 ∧
      ((Nic.transmit frame).outcome nic).2.Parallel alike
        ((Nic.transmit again).outcome other).2 := by
  obtain ⟨traffic, later, carries, onOther, both⟩ := parallel.traffic
  obtain ⟨answer, onNic⟩ := Interface.transmit_cases carries frame
  obtain ⟨answerAgain, onAgain⟩ := Interface.transmit_cases onOther again
  rw [both.hasRoom_eq] at answerAgain onAgain
  refine ⟨answerAgain.trans answer.symm,
    parallel.of_carries (timeless_transmit _) (timeless_transmit _) onNic onAgain ?_⟩
  split
  · exact both.enqueue resembles
  · exact both

/-- The same frame is received. -/
theorem receive (parallel : nic.Parallel alike other) (buffer : Bytes) :
    ((Nic.receive buffer).outcome other).1 = ((Nic.receive buffer).outcome nic).1 ∧
      ((Nic.receive buffer).outcome nic).2.Parallel alike
        ((Nic.receive buffer).outcome other).2 := by
  obtain ⟨traffic, later, carries, onOther, both⟩ := parallel.traffic
  cases waiting : traffic.waiting with
  | nil =>
      rw [carries.receive_none buffer waiting,
        onOther.receive_none buffer (both.waiting.trans waiting)]
      exact ⟨rfl, parallel⟩
  | cons oldest rest =>
      have otherWaiting : later.waiting = oldest :: rest := both.waiting.trans waiting
      cases whole : oldest.whole with
      | false =>
          rw [carries.receive_fragment buffer waiting whole,
            onOther.receive_fragment buffer otherWaiting whole]
          exact ⟨rfl, parallel⟩
      | true =>
          obtain ⟨after, received, onAfter⟩ := carries.receive_whole buffer waiting whole
          obtain ⟨last, receivedAgain, onLast⟩ := onOther.receive_whole buffer otherWaiting whole
          have timeless := parallel.of_carries (timeless_receive buffer) (timeless_receive buffer)
            (by rw [received]; exact onAfter) (by rw [receivedAgain]; exact onLast)
            (both.advance rest)
          refine ⟨?_, timeless⟩
          rw [received, receivedAgain]

/-- A frame that arrives is taken by both adapters or by neither. -/
theorem deliver (parallel : nic.Parallel alike other) (frame : Bytes) (whole : Bool) :
    let action := Nic.onSoftware false (Rig.deliver frame whole)
    (action.outcome other).1 = (action.outcome nic).1 ∧
      (action.outcome nic).2.Parallel alike (action.outcome other).2 := by
  intro action
  obtain ⟨traffic, later, carries, onOther, both⟩ := parallel.traffic
  rcases carries.waiting_cases with room | full
  · have otherRoom : later.waiting.length + 1 < ringSize := by rwa [both.waiting]
    obtain ⟨after, arrived, onAfter⟩ := carries.deliver frame whole room
    obtain ⟨last, arrivedAgain, onLast⟩ := onOther.deliver frame whole otherRoom
    refine ⟨?_, parallel.of_carries (timeless_onSoftware _ _) (timeless_onSoftware _ _)
      (by rw [arrived]; exact onAfter) (by rw [arrivedAgain]; exact onLast)
      (both.arrive frame whole)⟩
    rw [arrived, arrivedAgain]
  · have otherFull : later.waiting.length + 1 = ringSize := by rwa [both.waiting]
    rw [carries.deliver_full frame whole full, onOther.deliver_full frame whole otherFull]
    exact ⟨rfl, parallel⟩

theorem completeTransmits (parallel : nic.Parallel alike other) :
    (Nic.completeTransmits.outcome nic).2.Parallel alike
      (Nic.completeTransmits.outcome other).2 := by
  obtain ⟨traffic, later, carries, onOther, both⟩ := parallel.traffic
  exact parallel.of_carries (timeless_onSoftware _ _) (timeless_onSoftware _ _)
    carries.flushed onOther.flushed both.flush

theorem takeSent (parallel : nic.Parallel alike other) :
    (Nic.takeSent.outcome nic).2.Parallel alike (Nic.takeSent.outcome other).2 := by
  obtain ⟨traffic, later, carries, onOther, both⟩ := parallel.traffic
  obtain ⟨after, taken, onAfter⟩ := carries.takeSent
  obtain ⟨last, takenAgain, onLast⟩ := onOther.takeSent
  exact parallel.of_carries (timeless_onSoftware _ _) (timeless_onSoftware _ _)
    (by rw [taken]; exact onAfter) (by rw [takenAgain]; exact onLast) both.takeSent

theorem drainSent (parallel : nic.Parallel alike other) :
    (Nic.drainSent.outcome nic).2.Parallel alike (Nic.drainSent.outcome other).2 := by
  obtain ⟨traffic, later, carries, onOther, both⟩ := parallel.traffic
  obtain ⟨after, drained, onAfter⟩ := carries.drainSent
  obtain ⟨last, drainedAgain, onLast⟩ := onOther.drainSent
  exact parallel.of_carries (timeless_onSoftware _ _) (timeless_onSoftware _ _)
    (by rw [drained]; exact onAfter) (by rw [drainedAgain]; exact onLast) both.drainSent

/-- A wait takes as long on both adapters. -/
theorem awaitReceive (parallel : nic.Parallel alike other) (timeout : Duration) :
    ((Nic.awaitReceive timeout).outcome other).1 = ((Nic.awaitReceive timeout).outcome nic).1 ∧
      ((Nic.awaitReceive timeout).outcome nic).2.Parallel alike
        ((Nic.awaitReceive timeout).outcome other).2 := by
  obtain ⟨traffic, later, carries, onOther, both⟩ := parallel.traffic
  unfold Action.outcome Nic.awaitReceive Nic.await
  rw [parallel.clock, parallel.receiveReady_eq]
  cases nic.clock.wait timeout fun _ => nic.receiveReady with
  | none => exact ⟨rfl, parallel⟩
  | some wait =>
      dsimp only
      have moved : Nic.Parallel alike { nic with clock := wait.clock }
          { other with clock := wait.clock } :=
        ⟨rfl, traffic, later, ⟨carries.rig, carries.prompt⟩, ⟨onOther.rig, onOther.prompt⟩, both⟩
      cases wait.ready with
      | true => exact ⟨rfl, moved⟩
      | false => exact ⟨rfl, moved⟩

end Parallel

end Nic

end NetStack
