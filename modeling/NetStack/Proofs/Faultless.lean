/-
Module: NetStack.Proofs.Faultless
Purpose: No operation ends in a fault, wherever a run has led, and whatever is
  read without a check would pass one.
Main exports:
  Interface.Handling.Orderly, Interface.Sound.orderly_duty,
  Interface.Sound.result_cases, Setup.no_operation_faults
-/
import NetStack.Proofs.Checksum
import NetStack.Proofs.Duty
import NetStack.Proofs.Http.RequestLine
import NetStack.Proofs.Http.Response

namespace NetStack

open Interface (Operation)

/-!
Lengths that come off the wire are judged before anything is cut to them, and what
the stack puts together itself is cut to size first.  So whatever is dropped is
dropped for a cause, and never because an access left its buffer.
-/

namespace Interface

/-- What is dropped is dropped for a cause. -/
def Handling.Orderly (handling : Handling) : Prop :=
  ∀ failure, handling = .refuses failure → ∃ cause, failure = .refused cause

variable {interface : Interface} {handling : Handling} {automatic : Bool}

theorem Issues.orderly (issues : interface.Issues handling) : handling.Orderly := by
  intro failure refuses
  cases issues with
  | refuses cause =>
      cases refuses
      exact ⟨cause, rfl⟩
  | settles unnumbered => cases refuses
  | message destination message unnumbered => cases refuses
  | packet protocol destination fits known numbered spent => cases refuses

/-- A frame from outside is dropped for its length, or for want of a packet in it. -/
theorem orderly_frameHandling (interface : Interface) (header : Ethernet.Header)
    (payload : Bytes) : (interface.frameHandling header payload).Orderly := by
  intro failure refuses
  unfold frameHandling at refuses
  split at refuses
  · cases refuses
    exact ⟨_, rfl⟩
  · split at refuses
    · next cause dropped =>
      cases refuses
      unfold frameDestination at dropped
      split at dropped
      · cases decoded : Ipv4.Header.decode payload with
        | none =>
            rw [decoded] at dropped
            cases dropped
            exact ⟨_, rfl⟩
        | some packet =>
            rw [decoded, Action.demand_some, pure_bind, Action.outcome_get_bind] at dropped
            split at dropped <;> cases dropped
      · cases dropped
    · cases refuses

theorem Sound.orderly_duty (sound : interface.Sound automatic) {operation : Operation}
    (due : interface.duty operation = some handling)
    (awaited : operation.waits = true → interface.nic.receiveReady = true) :
    handling.Orderly := by
  cases dictates : operation.dictates with
  | false =>
      rcases sound.issues_duty due dictates with issues | ⟨waits, idle, -⟩
      · exact issues.orderly
      · rw [awaited waits] at idle
        cases idle
  | true =>
      cases operation with
      | sendFrame header payload =>
          obtain rfl := Option.some.inj due
          exact interface.orderly_frameHandling header payload
      | transmit frame =>
          obtain rfl := Option.some.inj due
          exact nofun
      | _ => cases dictates

/-- An operation succeeds, or is refused for a cause. -/
theorem Sound.result_cases (sound : interface.Sound automatic) {operation : Operation}
    (awaited : operation.waits = true → interface.nic.receiveReady = true) :
    operation.result interface = .ok () ∨
      ∃ cause, operation.result interface = .error (.refused cause) := by
  obtain ⟨traffic, carries, -⟩ := sound.wired
  cases due : interface.duty operation with
  | none =>
      obtain ⟨nic, later, -, -, done⟩ := outcome_no_duty carries due
      exact .inl (congrArg Prod.fst done)
  | some handling =>
      obtain ⟨nic, waiting, onNic, done⟩ := outcome_duty carries due
      let polling : Interface := { interface with nic }
      have onPolling : polling.nic.Carries { traffic with waiting } := onNic
      have answered : operation.result interface = (handling.outcome polling).1 :=
        congrArg Prod.fst done
      rw [answered]
      cases answer : (handling.outcome polling).1 with
      | ok value => exact .inl rfl
      | error failure =>
          right
          rcases Handling.outcome_error onPolling answer with ⟨refuses, -⟩ | ⟨rfl, -⟩
          · obtain ⟨cause, rfl⟩ := sound.orderly_duty due awaited failure refuses
            exact ⟨cause, rfl⟩
          · exact ⟨_, rfl⟩

end Interface

namespace Setup

/-- Nothing that arrives or is asked of the stack makes it fault.  Wherever a run has
led, on a running adapter or a stalled one, every operation succeeds or is refused
for a cause, unless it waits for a frame while none is there; so no checked access
leaves its buffer and no length outgrows its field.  The reads that are made without
a check would pass it as well: what a channel received, before and after it takes a
segment, every token of a request, and every reply, whose length leaves room for one
more in 32 bits.  Nor does a checksum outgrow 32 bits before its carry is folded. -/
theorem no_operation_faults (setup : Setup) (operations : List Operation) :
    let reached := setup.start.after operations
    (∀ operation : Operation,
      (operation.waits = true → reached.nic.receiveReady = true) →
      operation.result reached = .ok () ∨
        ∃ cause, operation.result reached = .error (.refused cause)) ∧
    (∀ index,
      let channel := reached.pool.get index
      Bytes.slice channel.window.cells 0 channel.window.fill = .ok channel.received ∧
      ∀ segment reaction, channel.react (reached.pool.fresh index) segment = .ok reaction →
        let staged := reaction.staged
        let reply := Http.respond staged.received (.zeros Tcp.maxPayload)
        Bytes.slice staged.window.cells 0 staged.window.fill = .ok staged.received ∧
          (∀ token, Http.Token.Of staged.received token →
            Bytes.slice staged.received token.span.offset
                (token.span.offset + token.span.length) =
              .ok (token.span.of staged.received)) ∧
          Bytes.slice reply.buffer 0 reply.length = .ok reply.written ∧
          reply.length + 1 < 2 ^ 32) ∧
    ∀ (data : Bytes) (word : UInt16), Checksum.sum data + word.toNat < 2 ^ 32 := by
  intro reached
  have sound : reached.Sound setup.automatic := (setup.sound_after operations).1
  refine ⟨fun operation awaited => sound.result_cases awaited, ?_, ?_⟩
  · intro index channel
    have channelSound : channel.Sound := sound.channels index
    refine ⟨channelSound.slice_received, ?_⟩
    intro segment reaction reacts staged reply
    have how := (Tcp.Channel.react_eq_ok_iff channelSound.onLoop).mp reacts
    have short : reply.length ≤ Tcp.maxPayload := by
      have fits := Http.length_respond_le staged.received (.zeros Tcp.maxPayload)
      rwa [Bytes.length_zeros] at fits
    refine ⟨how.slice_staged channelSound, fun token among => among.slice_eq_ok,
      Http.slice_respond_eq_ok _ _, ?_⟩
    exact (Nat.succ_le_succ short).trans_lt (by decide)
  · intro data word
    have bound := Checksum.sum_le data
    have wordBound := word.toNat_lt
    omega

end Setup

end NetStack
