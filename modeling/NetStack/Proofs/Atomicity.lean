/-
Module: NetStack.Proofs.Atomicity
Purpose: What a poll that fails leaves behind.
Main exports:
  Tcp.Channel.Alike, Interface.Spares, Interface.Owes.spares,
  Setup.failed_poll_is_atomic
-/
import NetStack.Proofs.Adapter.Sides
import NetStack.Proofs.Handling
import NetStack.Proofs.LostAnswer

namespace NetStack

open Tcp (Segment Reaction)
open Interface (Operation)

/-!
A poll fails either before anything was done about the frame, or because the
answer to the frame found no room.  In the first case nothing is left of the
frame.  In the second, what was done on the way to the answer stays where it
harms nobody: the sender's binding is known, or a number is spent.  What was done
to a channel does not stay.
-/

namespace Tcp.Channel

/-- Two channels that nobody can tell apart: only bytes above the fill marks may
differ. -/
structure Alike (channel other : Channel) : Prop where
  state : channel.state = other.state
  host : channel.host = other.host
  guest : channel.guest = other.guest
  sequence : channel.sequence = other.sequence
  acknowledgment : channel.acknowledgment = other.acknowledgment
  received : channel.received = other.received

theorem Alike.refl (channel : Channel) : Alike channel channel :=
  ⟨rfl, rfl, rfl, rfl, rfl, rfl⟩

/-- A channel that takes the bytes of a payload back is as it was before. -/
theorem Sound.alike_restored {channel : Channel} (sound : channel.Sound)
    {window : ReceiveWindow} {payload : Bytes}
    (appended : channel.window.append payload = .ok window) :
    Alike { channel with window := window.truncate channel.window.fill } channel := by
  obtain ⟨-, -, -, -, kept⟩ := ReceiveWindow.append_eq_ok sound.sized appended
  exact ⟨rfl, rfl, rfl, rfl, rfl, kept⟩

end Tcp.Channel

namespace Interface

variable {interface : Interface} {automatic : Bool}

/-- What may be left of a frame whose answer found no room. -/
structure Spares (interface : Interface) (parcel : Parcel) (unsent : Memory) : Prop where
  cache : unsent.cache = interface.cache ∨
    ∃ message, parcel = .resolution message ∧
      unsent.cache = (interface.cache.observe message.senderAddress message.senderMac).2
  identification : unsent.identification = interface.identification ∨
    unsent.identification = interface.identification + 1
  channels : ∀ index, (unsent.pool.get index).Alike (interface.pool.get index)

/-- Where no segment is involved, the channels are not. -/
theorem spares_counted (interface : Interface) (parcel : Parcel) :
    interface.Spares parcel interface.counted where
  cache := .inl rfl
  identification := .inr rfl
  channels := fun _ => .refl _

/-- An answer that finds no room, and whose loss counts, leaves no more than
that. -/
theorem Owes.spares (sound : interface.Sound automatic) {parcel : Parcel} {frame : Bytes}
    {sent unsent : Memory} (owes : interface.Owes parcel frame sent unsent) :
    interface.Spares parcel unsent := by
  cases owes with
  | @tells message asks =>
      exact {
        cache := .inr ⟨message, rfl, rfl⟩
        identification := .inl rfl
        channels := fun _ => .refl _ }
  | asks unknown =>
      exact {
        cache := .inl rfl
        identification := .inl rfl
        channels := fun _ => .refl _ }
  | replies known made => exact interface.spares_counted _
  | forwards made => exact interface.spares_counted _
  | @reacts segment index reaction answer restored serves reacts due loss =>
      have channelSound := sound.channels index
      have how := (Tcp.Channel.react_eq_ok_iff channelSound.onLoop).mp reacts
      obtain ⟨window, appended, rfl⟩ := how.of_undone due loss
      refine ⟨.inl rfl, .inr rfl, ?_⟩
      intro other
      rw [reacted]
      dsimp only
      rw [Tcp.Pool.get_set]
      split
      · next here =>
        subst here
        exact channelSound.alike_restored appended
      · exact .refl _

/-- An answer whose loss counts, and that finds no room, makes the poll fail. -/
theorem poll_result_of_full {traffic : Traffic} {frame answer : Bytes} {sent unsent : Memory}
    (carries : interface.nic.Carries traffic) (next : traffic.next? = some frame)
    (full : traffic.pending.length = ringSize)
    (owed : interface.handling (.ofFrame packetSize frame) = .answers answer sent unsent false) :
    Operation.poll.result interface = .error (.refused .queueFull) := by
  have onTaken : interface.taken.Carries traffic.advance := carries_taken carries next
  rw [Operation.result, outcome_poll_parcel carries next, owed, Handling.outcome,
    onTaken.transmit_full answer full]
  rfl

end Interface

namespace Setup

/-- A poll that fails is as good as none.  Wherever a run has led, it hands back
the one slot of the frame it failed on, and neither queues nor sends anything; no
channel is changed, and neither is the configuration.  Unless it failed for lack
of room in the transmit ring, nothing was learned and no number taken.  If it
did, then at most the frame's own sender was seen, in case it is an address
resolution message, and at most one number is spent. -/
theorem failed_poll_is_atomic (setup : Setup) (operations : List Operation) (failure : Failure)
    (failed : Operation.poll.result (setup.start.after operations) = .error failure) :
    let reached := setup.start.after operations
    let after := Operation.poll.next reached
    ∃ frame, reached.nic.front? = some frame ∧
      reached.nic.HandsBack after.nic ∧
      after.nic.sent = reached.nic.sent ∧
      after.nic.outbox = reached.nic.outbox ∧
      (∀ index, (after.pool.get index).Alike (reached.pool.get index)) ∧
      after.config = reached.config ∧
      (failure ≠ .refused .queueFull →
        after.cache = reached.cache ∧ after.identification = reached.identification) ∧
      (failure = .refused .queueFull →
        (after.cache = reached.cache ∨
          ∃ message, Parcel.ofFrame packetSize frame = .resolution message ∧
            after.cache =
              (reached.cache.observe message.senderAddress message.senderMac).2) ∧
          (after.identification = reached.identification ∨
            after.identification = reached.identification + 1)) := by
  intro reached after
  have sound : reached.Sound setup.automatic := (setup.sound_after operations).1
  obtain ⟨traffic, carries, -⟩ := sound.wired
  cases next : traffic.next? with
  | none =>
      have idle := Interface.outcome_poll_idle carries next
      rw [Operation.result, idle] at failed
      cases failed
  | some frame =>
      have polled := Interface.outcome_poll_parcel carries next
      let polling : Interface := { reached with nic := reached.taken }
      have onPolling : polling.nic.Carries traffic.advance := Interface.carries_taken carries next
      have returned : reached.nic.HandsBack polling.nic := carries.receive_next_handsBack next _
      have left : after = ((reached.handling (.ofFrame packetSize frame)).outcome polling).2 := by
        rw [← polled]
        rfl
      rw [Operation.result, polled] at failed
      refine ⟨frame, carries.front?.trans next, ?_⟩
      rcases Interface.Handling.outcome_error onPolling failed with
        ⟨-, unchanged⟩ | ⟨full, -, answer, sent, unsent, owed, becomes⟩
      · rw [left, unchanged]
        refine ⟨returned, returned.sends.sent, returned.sends.outbox, ?_, rfl, ?_, ?_⟩
        · exact fun _ => .refl _
        · exact fun _ => ⟨rfl, rfl⟩
        · exact fun _ => ⟨.inl rfl, .inl rfl⟩
      · have spares := (Interface.owes_of_handling owed).spares sound
        rw [left, becomes]
        refine ⟨returned, returned.sends.sent, returned.sends.outbox, spares.channels, rfl, ?_, ?_⟩
        · exact fun other => absurd full other
        · exact fun _ => ⟨spares.cache, spares.identification⟩

/-- A station without a binding asks for our hardware address. -/
def question : Arp.Message :=
  .request ⟨0x02, 0, 0, 0, 0, 0x09⟩ ⟨10, 0, 2, 9⟩ Config.default.address

def questionFrame : Bytes :=
  let header : Ethernet.Header := {
    destination := .broadcast
    source := question.senderMac
    etherType := .arp }
  header.encode ++ question.encode

theorem ofFrame_questionFrame : Parcel.ofFrame packetSize questionFrame = .resolution question :=
  rfl

/-- Behind a full ring the question fails for lack of room. -/
theorem question_refused_at_stuffed :
    let full := (Setup.default false).start.after stuffed
    full.nic.receiveReady = false ∧
      Operation.poll.result ((Operation.inject questionFrame).next full) =
        .error (.refused .queueFull) := by
  intro full
  obtain ⟨carries, -⟩ := carries_fill (Setup.default false) rfl [0] (Nat.le_refl ringSize)
  have carriesOn : full.nic.Carries _ := carries
  refine ⟨carriesOn.receiveReady, ?_⟩
  have configured : full.config = Config.default := ((Setup.default false).sound_after stuffed).2
  obtain ⟨nic, injected, onNic⟩ := carriesOn.inject questionFrame (by decide)
  have arrived : (Operation.inject questionFrame).next full = { full with nic } := by
    rw [Operation.next_inject, injected]
  have asks : question.targetAddress = full.config.address ∧ question.operation = .request := by
    rw [configured]
    exact ⟨rfl, rfl⟩
  have owes : full.Owes (.resolution question) _ _ _ := .tells asks
  have owed := owes.handling_eq
  rw [← Interface.handling_nic full nic, ← ofFrame_questionFrame] at owed
  rw [arrived]
  exact Interface.poll_result_of_full onNic rfl (List.length_replicate ..) owed

/-- The question waits behind a full ring. -/
def questioned : List Operation :=
  stuffed ++ [.inject questionFrame]

theorem failed_poll_is_atomic_at_question :
    let reached := (Setup.default false).start.after questioned
    let after := Operation.poll.next reached
    Operation.poll.result reached = .error (.refused .queueFull) ∧
      reached.nic.HandsBack after.nic ∧ after.nic.outbox = reached.nic.outbox := by
  intro reached after
  have failed : Operation.poll.result ((Setup.default false).start.after questioned) =
      .error (.refused .queueFull) := by
    rw [questioned, Interface.after_concat]
    exact question_refused_at_stuffed.2
  obtain ⟨frame, -, returned, -, unsent, -⟩ :=
    failed_poll_is_atomic (Setup.default false) questioned _ failed
  exact ⟨failed, returned, unsent⟩

end Setup

end NetStack
