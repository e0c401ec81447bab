/-
Module: NetStack.Proofs.TransmitFifo
Purpose: The transmit ring as a queue of frames, over every run of
  transmissions, sweeps by the adapter, and frames taken off the link.
Main exports:
  Nic.pending, Nic.SendUse, Nic.SendLedger, Nic.SendLedger.use,
  Nic.SendLedger.Agrees, Nic.SendLedger.Agrees.use,
  Setup.transmit_ring_is_fifo
-/
import NetStack.Proofs.Adapter.Sides
import NetStack.Proofs.Run

namespace NetStack

/-!
A full transmit ring and an empty one look alike to whoever compares head and
tail: both registers name the same slot.  The done marks tell the two apart, and
so what is pending is read here off the slots, from the head on up to the first
one that is free.  A ledger kept beside the ring records which frames it said yes
to and which came off the link; between the two lies what was sent and not yet
taken, and behind it what is pending.
-/

/-- Slots that hold a queue show exactly its frames, up to the first free one. -/
theorem TransmitSlot.takeWhile_busy {slots : List TransmitSlot} {frames : List Bytes}
    (fits : frames.length ≤ slots.length)
    (shown : ∀ (offset : Nat) (slot : TransmitSlot), slots[offset]? = some slot →
      slot.Holds frames[offset]?) :
    (slots.takeWhile fun slot => !slot.done).map TransmitSlot.frame = frames := by
  induction slots generalizing frames with
  | nil =>
      obtain rfl : frames = [] := List.length_eq_zero_iff.mp (Nat.le_zero.mp fits)
      rfl
  | cons slot slots inductiveHypothesis =>
      have first : slot.Holds frames[0]? := shown 0 slot rfl
      cases frames with
      | nil =>
          have free : slot.done = true := first.2
          simp [free]
      | cons frame frames =>
          obtain ⟨-, busy, content⟩ := first
          have rest := inductiveHypothesis (Nat.le_of_succ_le_succ fits)
            fun offset slot here => shown (offset + 1) slot here
          simp [busy, content, rest]

namespace Nic

variable {nic : Nic} {traffic : Traffic}

/-- The frames that the adapter has still to send: those in the slots from the
head on, up to the first slot that is free. -/
def pending (nic : Nic) : List Bytes :=
  let head := (nic.reg .transmitHead).toNat
  let slots := List.ofFn fun offset : Fin ringSize =>
    nic.rings.transmit.get ⟨(head + offset) % ringSize, Nat.mod_lt _ (by decide)⟩
  (slots.takeWhile fun slot => !slot.done).map TransmitSlot.frame

theorem Carries.pending (carries : nic.Carries traffic) : nic.pending = traffic.pending := by
  obtain ⟨adapter, software, onRig⟩ := carries.rig
  have queue := onRig.transmitQueue
  have head : nic.reg .transmitHead = adapter.file.reg .transmitHead := by
    rw [reg, software]
  unfold Nic.pending
  apply TransmitSlot.takeWhile_busy
  · rw [List.length_ofFn]
    exact queue.fits
  · intro offset slot here
    rw [List.getElem?_ofFn] at here
    split at here
    · next inside =>
      apply queue.shown offset slot inside
      rw [← here, ← head]
      exact Vector.getElem?_eq_getElem _
    · cases here

/-! ## Head and tail -/

/-- Sweeping the transmit ring leaves the tail alone, and the head inside the
ring. -/
theorem Carries.indices_completeTransmits (carries : nic.Carries traffic) :
    let after := (Nic.completeTransmits.outcome nic).2
    (after.reg .transmitHead).toNat < ringSize ∧
      after.reg .transmitTail = nic.reg .transmitTail := by
  intro after
  obtain ⟨adapter, software, onRig⟩ := carries.rig
  have inside : (adapter.file.reg .transmitHead).toNat % ringSize < ringSize :=
    Nat.mod_lt _ (by decide)
  obtain ⟨transmit, swept, -⟩ :=
    Rig.sendPending_outcome ⟨adapter, nic.rings⟩ onRig.transmitQueue.fits inside
      (onRig.transmitQueue.congr _ (Nat.mod_mod _ _))
  have completed : after = _ := congrArg Prod.snd (outcome_onSoftware () _ software)
  rw [Rig.outcome_completeTransmits, if_neg onRig.programmed.transmitting,
    onRig.programmed.transmitRing] at completed
  dsimp only at completed
  rw [swept] at completed
  rw [completed]
  constructor
  · rw [reg]
    dsimp only
    rw [RegisterFile.reg_setReg, if_pos rfl, UInt32.toNat_ofNat']
    have last := Nat.mod_lt ((adapter.file.reg .transmitHead).toNat % ringSize +
      traffic.pending.length) (show 0 < ringSize by decide)
    exact Nat.lt_of_le_of_lt (Nat.mod_le _ _) last
  · rw [reg, reg, software]
    exact (RegisterFile.reg_setReg _ _ _ _).trans (if_neg (by decide))

/-- A software adapter is attached with head and tail at the first slot. -/
theorem indices_attach (mac : MacAddress) (automatic : Bool) (clock : StepClock)
    (addresses : BusAddresses) :
    ∀ register ∈ [Register.transmitHead, .transmitTail],
      (attach (.software { SoftwareAdapter.running mac with automatic }) clock
        addresses).state.reg register = 0 := by
  have zeroed (register : Register) : RegisterFile.zeroed.reg register = 0 := rfl
  unfold attach
  rw [Action.state_eq]
  unfold start
  simp only [Action.outcome_get_bind, Action.outcome_emit_bind, startTransmit, startReceive,
    bind_assoc]
  simp (disch := simp [RegisterFile.reg_setReg, SoftwareAdapter.running, zeroed]) only
    [outcome_setReg_bind, Action.outcome_get_bind, Action.outcome_emit]
  simp [reg, RegisterFile.reg_setReg]

/-- Taking a frame off the link writes no register. -/
theorem reg_takeSent (nic : Nic) (register : Register) :
    (Nic.takeSent.outcome nic).2.reg register = nic.reg register := by
  cases behind : nic.adapter with
  | mapped window => simp [Nic.takeSent, onSoftware, Action.outcome, behind]
  | software adapter =>
      rw [Nic.takeSent, outcome_onSoftware _ _ behind, reg, reg, behind]
      unfold Rig.takeSent
      rw [Action.outcome_get_bind]
      cases adapter.sent <;> rfl

/-! ## The ledger -/

/-- What is done to a transmit ring from its two ends, and to the link behind
it. -/
inductive SendUse where
  /-- The stack queues a frame. -/
  | transmit (frame : Bytes)
  /-- The adapter sends what is pending. -/
  | completeTransmits
  /-- A frame that was sent is taken off the link. -/
  | takeSent

/-- An adapter, and what its transmit ring answered up to now. -/
structure SendLedger where
  nic : Nic
  /-- The frames accepted, oldest first. -/
  accepted : List Bytes
  /-- The frames taken off the link, oldest first. -/
  taken : List Bytes

namespace SendLedger

/-- Nothing has been queued. -/
def opened (nic : Nic) : SendLedger :=
  { nic, accepted := [], taken := [] }

/-- Use the ring once, and write down what it answers. -/
def use (ledger : SendLedger) : SendUse → SendLedger
  | .transmit frame =>
      let done := (Nic.transmit frame).outcome ledger.nic
      { ledger with
        nic := done.2
        accepted :=
          match done.1 with
          | .ok () => ledger.accepted ++ [frame]
          | .error _ => ledger.accepted }
  | .completeTransmits =>
      { ledger with nic := (Nic.completeTransmits.outcome ledger.nic).2 }
  | .takeSent =>
      let done := Nic.takeSent.outcome ledger.nic
      { ledger with
        nic := done.2
        taken :=
          match done.1 with
          | .ok (some frame) => ledger.taken ++ [frame]
          | _ => ledger.taken }

/-- Every frame that was accepted is accounted for, once and in its turn.  Only
where frames pile up does it matter that head and tail stay inside the ring. -/
structure Agrees (ledger : SendLedger) (traffic : Traffic) : Prop where
  carries : ledger.nic.Carries traffic
  accounted : ledger.taken ++ traffic.outbound = ledger.accepted.map (List.take packetSize)
  inside : traffic.automatic = false →
    (ledger.nic.reg .transmitHead).toNat < ringSize ∧
      (ledger.nic.reg .transmitTail).toNat < ringSize

variable {ledger : SendLedger} {traffic : Traffic}

namespace Agrees

/-- At first there is nothing to account for. -/
theorem opened {nic : Nic} {automatic : Bool} (carries : nic.Carries (.none automatic))
    (first : ∀ register ∈ [Register.transmitHead, .transmitTail], nic.reg register = 0) :
    (SendLedger.opened nic).Agrees (.none automatic) := by
  refine ⟨carries, rfl, ?_⟩
  intro _
  dsimp only [SendLedger.opened]
  rw [first .transmitHead (by decide), first .transmitTail (by decide)]
  decide

/-- A frame that finds room is the last of those accepted. -/
theorem transmit (agrees : ledger.Agrees traffic) (room : traffic.pending.length < ringSize)
    (frame : Bytes) :
    (ledger.use (.transmit frame)).Agrees (traffic.enqueue (frame.take packetSize)) := by
  obtain ⟨after, queued, onAfter⟩ := agrees.carries.transmit frame room
  have becomes : ledger.use (.transmit frame) =
      { ledger with nic := after, accepted := ledger.accepted ++ [frame] } := by
    rw [use, queued]
  rw [becomes]
  refine ⟨onAfter, ?_, ?_⟩
  · rw [Traffic.outbound_enqueue, ← List.append_assoc, agrees.accounted, List.map_append]
    rfl
  · intro stalled
    rw [Traffic.automatic_enqueue] at stalled
    obtain ⟨-, moved⟩ := agrees.carries.reg_transmit stalled room frame
    rw [queued] at moved
    dsimp only at moved ⊢
    rw [moved, moved, if_neg (by decide), if_pos rfl, UInt32.toNat_ofNat']
    refine ⟨(agrees.inside stalled).1, ?_⟩
    exact Nat.lt_of_le_of_lt (Nat.mod_le _ _) (Nat.mod_lt _ (by decide))

/-- One that finds none leaves no trace. -/
theorem transmit_full (agrees : ledger.Agrees traffic)
    (full : traffic.pending.length = ringSize) (frame : Bytes) :
    ledger.use (.transmit frame) = ledger := by
  rw [use, agrees.carries.transmit_full frame full]

/-- What is pending is sent behind what was sent before. -/
theorem completeTransmits (agrees : ledger.Agrees traffic) :
    (ledger.use .completeTransmits).Agrees traffic.flush where
  carries := agrees.carries.flushed
  accounted := by
    rw [Traffic.outbound_flush]
    exact agrees.accounted
  inside := by
    intro stalled
    obtain ⟨head, tail⟩ := agrees.carries.indices_completeTransmits
    refine ⟨head, ?_⟩
    show ((Nic.completeTransmits.outcome ledger.nic).2.reg .transmitTail).toNat < ringSize
    rw [tail]
    exact (agrees.inside stalled).2

/-- What is taken off the link is the oldest frame sent. -/
theorem takeSent (agrees : ledger.Agrees traffic) :
    (ledger.use .takeSent).Agrees { traffic with sent := traffic.sent.tail } := by
  obtain ⟨after, done, onAfter⟩ := agrees.carries.takeSent
  have still (register : Register) : after.reg register = ledger.nic.reg register := by
    rw [← reg_takeSent ledger.nic register, done]
  have accounted := agrees.accounted
  unfold Traffic.outbound at accounted
  cases sent : traffic.sent with
  | nil =>
      have becomes : ledger.use .takeSent = { ledger with nic := after } := by
        rw [use, done, sent]
        rfl
      rw [becomes]
      rw [sent] at onAfter accounted
      refine ⟨onAfter, accounted, ?_⟩
      intro stalled
      dsimp only
      rw [still, still]
      exact agrees.inside stalled
  | cons frame rest =>
      have becomes : ledger.use .takeSent =
          { ledger with nic := after, taken := ledger.taken ++ [frame] } := by
        rw [use, done, sent]
        rfl
      rw [becomes]
      rw [sent] at onAfter accounted
      refine ⟨onAfter, ?_, ?_⟩
      · rw [← accounted]
        simp [Traffic.outbound]
      · intro stalled
        dsimp only
        rw [still, still]
        exact agrees.inside stalled

/-- The ring and its ledger go on agreeing, whatever is done. -/
theorem use (agrees : ledger.Agrees traffic) (sendUse : SendUse) :
    ∃ later, (ledger.use sendUse).Agrees later ∧ later.automatic = traffic.automatic := by
  cases sendUse with
  | transmit frame =>
      rcases agrees.carries.pending_cases with room | full
      · exact ⟨_, agrees.transmit room frame, Traffic.automatic_enqueue _ _⟩
      · rw [agrees.transmit_full full frame]
        exact ⟨traffic, agrees, rfl⟩
  | completeTransmits => exact ⟨_, agrees.completeTransmits, rfl⟩
  | takeSent => exact ⟨_, agrees.takeSent, rfl⟩

/-- From head to tail round the ring it is as far as frames are pending. -/
theorem distance (agrees : ledger.Agrees traffic) :
    (((ledger.nic.reg .transmitTail).toNat : Int) - (ledger.nic.reg .transmitHead).toNat) % 32 =
      ledger.nic.pending.length % 32 := by
  obtain ⟨adapter, software, onRig⟩ := agrees.carries.rig
  have tail : (adapter.file.reg .transmitTail).toNat % 32 =
      ((adapter.file.reg .transmitHead).toNat + traffic.pending.length) % 32 := onRig.transmitTail
  rw [agrees.carries.pending, reg, reg, software]
  dsimp only
  omega

/-- With every slot taken, head and tail are at the same one. -/
theorem head_eq_tail (agrees : ledger.Agrees traffic)
    (full : traffic.pending.length = ringSize) :
    ledger.nic.reg .transmitHead = ledger.nic.reg .transmitTail := by
  have stalled : traffic.automatic = false := by
    cases running : traffic.automatic with
    | false => rfl
    | true =>
        rw [agrees.carries.prompt running] at full
        cases full
  obtain ⟨head, tail⟩ := agrees.inside stalled
  have apart := agrees.distance
  rw [agrees.carries.pending, full] at apart
  simp only [ringSize] at head tail apart
  apply UInt32.toNat_inj.mp
  omega

end Agrees

end SendLedger

end Nic

namespace Setup

open Nic (SendUse SendLedger)

theorem send_agrees_after (setup : Setup) (uses : List SendUse) :
    ∃ traffic, (uses.foldl SendLedger.use (.opened setup.start.nic)).Agrees traffic ∧
      traffic.automatic = setup.automatic := by
  have start : (SendLedger.opened setup.start.nic).Agrees (.none setup.automatic) := by
    apply SendLedger.Agrees.opened setup.carries_start
    rw [start, Interface.bringUp, Interface.fresh]
    dsimp only
    exact Nic.indices_attach setup.mac setup.automatic setup.clock setup.addresses
  -- what the ledger has to agree with changes from use to use, whether the adapter runs does not
  suffices runs : ∀ ledger traffic, SendLedger.Agrees ledger traffic →
      ∃ later, (uses.foldl SendLedger.use ledger).Agrees later ∧
        later.automatic = traffic.automatic from runs _ _ start
  induction uses with
  | nil => exact fun _ traffic agrees => ⟨traffic, agrees, rfl⟩
  | cons first uses inductiveHypothesis =>
      intro ledger traffic agrees
      obtain ⟨middle, onward, kept⟩ := agrees.use first
      obtain ⟨later, last, same⟩ := inductiveHypothesis _ _ onward
      exact ⟨later, last, same.trans kept⟩

/-- The transmit ring is a queue of 32 frames that loses, doubles, reorders and
mixes nothing.  After every run of transmissions, sweeps and frames taken off the
link, on an adapter that was just attached: the frames taken, those sent and not
yet taken, and those pending, one behind the other, are the frames accepted, each
cut to a packet buffer.  A frame is accepted while fewer than 32 are pending, and
changes nothing otherwise; the stack sees which; and the registers tell how many
there are, up to a full round, so that head and tail meet on a full ring.  A sweep
sends all that is pending, on a full ring too.  On a running adapter nothing is
ever pending, and no frame is refused. -/
theorem transmit_ring_is_fifo (setup : Setup) (uses : List SendUse) :
    let reached := uses.foldl SendLedger.use (.opened setup.start.nic)
    let pending := reached.nic.pending
    let swept := Nic.completeTransmits.outcome reached.nic
    reached.taken ++ reached.nic.sent ++ pending = reached.accepted.map (List.take 2048) ∧
      pending.length ≤ 32 ∧
      (∀ frame, ((Nic.transmit frame).outcome reached.nic).1 =
        if pending.length < 32 then .ok () else .error (.refused .queueFull)) ∧
      (¬pending.length < 32 → ∀ frame,
        (Nic.transmit frame).outcome reached.nic =
          (.error (.refused .queueFull), reached.nic)) ∧
      reached.nic.transmitReady = decide (pending.length < 32) ∧
      (((reached.nic.reg .transmitTail).toNat : Int) -
          (reached.nic.reg .transmitHead).toNat) % 32 = pending.length % 32 ∧
      (pending.length = 32 →
        reached.nic.reg .transmitHead = reached.nic.reg .transmitTail) ∧
      (swept.1 = .ok () ∧ swept.2.pending = [] ∧ swept.2.sent = reached.nic.sent ++ pending) ∧
      (Nic.takeSent.outcome reached.nic).1 = .ok reached.nic.sent.head? ∧
      (setup.automatic = true →
        pending = [] ∧ ∀ frame, ((Nic.transmit frame).outcome reached.nic).1 = .ok ()) := by
  intro reached pending swept
  obtain ⟨traffic, agrees, running⟩ := setup.send_agrees_after uses
  have carries : reached.nic.Carries traffic := agrees.carries
  have shown : pending = traffic.pending := carries.pending
  have filled : traffic.pending.length < 32 ∨ traffic.pending.length = 32 :=
    carries.pending_cases
  have accepts (frame : Bytes) : ((Nic.transmit frame).outcome reached.nic).1 =
      if traffic.pending.length < 32 then .ok () else .error (.refused .queueFull) := by
    rcases filled with room | full
    · obtain ⟨after, queued, -⟩ := carries.transmit frame room
      rw [queued, if_pos room]
    · rw [carries.transmit_full frame full, if_neg (by omega)]
  obtain ⟨emptied, completed, onEmptied⟩ := carries.completeTransmits
  obtain ⟨after, taken, -⟩ := carries.takeSent
  have distance := agrees.distance
  rw [carries.sent, shown]
  refine ⟨?_, by omega, accepts, ?_, carries.transmitReady, ?_, agrees.head_eq_tail, ?_, ?_, ?_⟩
  · rw [List.append_assoc]
    exact agrees.accounted
  · intro full frame
    exact carries.transmit_full frame (filled.resolve_left full)
  · rwa [carries.pending] at distance
  · have done : swept = (.ok (), emptied) := completed
    rw [done]
    exact ⟨rfl, onEmptied.pending, onEmptied.sent⟩
  · rw [taken]
  · intro automatic
    have empty := carries.prompt (running.trans automatic)
    refine ⟨empty, ?_⟩
    intro frame
    rw [accepts, empty]
    rfl

end Setup

end NetStack
