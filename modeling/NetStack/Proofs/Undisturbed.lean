/-
Module: NetStack.Proofs.Undisturbed
Purpose: Which operations of the interface leave every channel as it is.
Main exports:
  Interface.Undisturbed, Interface.Quiet, Interface.quiet_sendFrame,
  Interface.quiet_sendPacket, Interface.quiet_resolve,
  Interface.quiet_receiveEcho, Interface.quiet_receiveDatagram
-/
import NetStack.Interface.Polling
import NetStack.Proofs.Nic

namespace NetStack.Interface

/-!
Only an accepted segment changes a channel.  Whatever else the interface does is
quiet: numbers are taken, bindings are learned and frames move, but the channels
and the configuration stay, and the adapter stays in working order.  Quietness
is a property of each operation by itself, so that a sequence of quiet
operations is quiet, and a failure on the way changes nothing about it.
-/

/-- What two interfaces share between which no channel was touched. -/
structure Undisturbed (before after : Interface) : Prop where
  pool : after.pool = before.pool
  config : after.config = before.config
  wired : ∀ automatic, before.nic.Wired automatic → after.nic.Wired automatic

namespace Undisturbed

theorem refl (interface : Interface) : Undisturbed interface interface :=
  ⟨rfl, rfl, fun _ wired => wired⟩

theorem trans {first middle last : Interface} (earlier : Undisturbed first middle)
    (later : Undisturbed middle last) : Undisturbed first last where
  pool := later.pool.trans earlier.pool
  config := later.config.trans earlier.config
  wired := fun automatic wired => later.wired automatic (earlier.wired automatic wired)

end Undisturbed

/-- An operation that touches no channel, however it ends. -/
def Quiet {α : Type} (action : Action Interface α) : Prop :=
  ∀ interface, Undisturbed interface (action.outcome interface).2

section Sequences

variable {α β : Type}

theorem quiet_pure (value : α) : Quiet (pure value) :=
  fun interface => .refl interface

theorem quiet_get : Quiet Action.get :=
  fun interface => .refl interface

theorem quiet_emit (event : Event) : Quiet (Action.emit event) :=
  fun interface => .refl interface

theorem quiet_refuse (cause : StackError) : Quiet (Action.refuse cause : Action Interface α) :=
  fun interface => .refl interface

theorem quiet_check (checked : Except Fault α) : Quiet (Action.check checked) := by
  intro interface
  cases checked <;> exact .refl interface

theorem quiet_demand (value? : Option α) (cause : StackError) :
    Quiet (Action.demand value? cause) := by
  intro interface
  cases value? <;> exact .refl interface

theorem Quiet.bind {first : Action Interface α} {next : α → Action Interface β}
    (quiet : Quiet first) (onward : ∀ value, Quiet (next value)) : Quiet (first >>= next) := by
  intro interface
  have begun := quiet interface
  rcases done : first.outcome interface with ⟨answer, middle⟩
  rw [done] at begun
  cases answer with
  | ok value =>
      rw [Action.outcome_bind_of_ok done]
      exact begun.trans (onward value middle)
  | error failure =>
      rw [Action.outcome_bind_of_error done]
      exact begun

/-- To report why something is dropped, and drop it, is quiet. -/
theorem quiet_drop (event : Event) (cause : StackError) :
    Quiet (Action.emit event >>= fun _ => (Action.refuse cause : Action Interface α)) :=
  (quiet_emit event).bind fun _ => quiet_refuse cause

theorem Quiet.attempt {action : Action Interface α} (quiet : Quiet action) :
    Quiet action.attempt := by
  intro interface
  rw [Action.outcome_attempt]
  exact quiet interface

/-- What keeps the adapter in working order is quiet on the interface. -/
theorem quiet_onNic {action : Action Nic α}
    (keeps : ∀ nic automatic, Nic.Wired nic automatic → (action.outcome nic).2.Wired automatic) :
    Quiet (onNic action) :=
  fun interface => ⟨rfl, rfl, fun automatic wired => keeps interface.nic automatic wired⟩

end Sequences

/-! ## The way down -/

theorem quiet_takeIdentification : Quiet takeIdentification :=
  fun _ => ⟨rfl, rfl, fun _ wired => wired⟩

theorem quiet_frameDestination (header : Ethernet.Header) (payload : Bytes) :
    Quiet (frameDestination header payload) := by
  unfold frameDestination
  split
  · refine (quiet_demand _ _).bind fun packet => quiet_get.bind fun interface => ?_
    split
    · exact quiet_pure _
    · exact (quiet_emit _).bind fun _ => quiet_pure _
  · exact quiet_pure _

theorem quiet_sendFrame (header : Ethernet.Header) (payload : Bytes) :
    Quiet (sendFrame header payload) := by
  unfold sendFrame
  refine (quiet_emit _).bind fun _ => ?_
  split
  · exact quiet_refuse _
  · refine (quiet_frameDestination _ _).bind fun destination => quiet_get.bind fun interface =>
      (quiet_check _).bind fun frame => ?_
    have queued : Quiet (onNic (Nic.transmit frame)) :=
      quiet_onNic fun _ _ wired => wired.transmit frame
    refine queued.attempt.bind fun answer => ?_
    split
    · exact quiet_pure _
    · exact quiet_drop _ _

theorem quiet_sendPacket (protocol : UInt8) (destination : Ipv4Address) (payload : Bytes) :
    Quiet (sendPacket protocol destination payload) := by
  unfold sendPacket
  refine (quiet_emit _).bind fun _ => ?_
  split
  · exact quiet_refuse _
  · exact quiet_get.bind fun _ => (quiet_check _).bind fun _ =>
      quiet_takeIdentification.bind fun _ => (quiet_check _).bind fun _ => quiet_sendFrame _ _

theorem quiet_sendOn (index : Fin Tcp.poolSize) (flags : Tcp.Flags) (payload : Bytes) :
    Quiet (sendOn index flags payload) := by
  unfold sendOn
  exact quiet_get.bind fun _ => (quiet_check _).bind fun _ => (quiet_emit _).bind fun _ =>
    quiet_sendPacket _ _ _

theorem quiet_sendSegment (port : UInt16) (flags : Tcp.Flags) (payload : Bytes) :
    Quiet (sendSegment port flags payload) := by
  unfold sendSegment
  exact quiet_get.bind fun _ => (quiet_demand _ _).bind fun _ => quiet_sendOn _ _ _

theorem quiet_sendAcknowledgment (port : UInt16) (flags : Tcp.Flags) :
    Quiet (sendAcknowledgment port flags) :=
  quiet_sendSegment _ _ _

/-! ## Address resolution and the two echoes -/

theorem quiet_askAddress (target : Ipv4Address) : Quiet (askAddress target) := by
  unfold askAddress
  exact (quiet_emit _).bind fun _ => quiet_get.bind fun _ => quiet_sendFrame _ _

theorem quiet_tellAddress (question : Arp.Message) : Quiet (tellAddress question) := by
  unfold tellAddress
  exact quiet_get.bind fun _ => (quiet_emit _).bind fun _ => quiet_sendFrame _ _

theorem quiet_learn (address : Ipv4Address) (mac : MacAddress) : Quiet (learn address mac) :=
  fun _ => ⟨rfl, rfl, fun _ wired => wired⟩

theorem quiet_resolve (data : Bytes) : Quiet (resolve data) := by
  unfold resolve
  refine (quiet_emit _).bind fun _ => (quiet_demand _ _).bind fun message => ?_
  split
  · exact quiet_drop _ _
  · split
    · exact quiet_drop _ _
    · refine (quiet_learn _ _).bind fun _ => quiet_get.bind fun interface => ?_
      split
      · exact quiet_tellAddress _
      · exact quiet_emit _

theorem quiet_receiveEcho (sender : Ipv4Address) (message : Bytes) :
    Quiet (receiveEcho sender message) := by
  unfold receiveEcho
  refine (quiet_emit _).bind fun _ => (quiet_demand _ _).bind fun header => ?_
  split
  · exact quiet_refuse _
  · split
    · exact quiet_refuse _
    · refine quiet_get.bind fun interface => ?_
      split
      · exact (quiet_emit _).bind fun _ => quiet_askAddress _
      · exact (quiet_check _).bind fun _ => (quiet_emit _).bind fun _ => quiet_sendPacket _ _ _

theorem quiet_sendDatagram (data : Bytes) : Quiet (sendDatagram data) := by
  unfold sendDatagram
  exact (quiet_emit _).bind fun _ => quiet_get.bind fun _ => (quiet_check _).bind fun _ =>
    (quiet_check _).bind fun _ => quiet_sendPacket _ _ _

theorem quiet_receiveDatagram (datagram : Bytes) : Quiet (receiveDatagram datagram) := by
  unfold receiveDatagram
  exact (quiet_emit _).bind fun _ => (quiet_demand _ _).bind fun _ => (quiet_emit _).bind fun _ =>
    quiet_sendDatagram _

end NetStack.Interface
