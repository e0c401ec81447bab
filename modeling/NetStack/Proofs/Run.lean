/-
Module: NetStack.Proofs.Run
Purpose: Everything that can be done to an interface from outside, runs of it,
  and which of it reaches a channel.
Main exports:
  Interface.Operation, Interface.Operation.next, Interface.after,
  Interface.turns, Interface.arrival, Interface.perform_of_arrival,
  Interface.undisturbed_of_no_arrival, Setup, Setup.start
-/
import NetStack.Proofs.Reading

namespace NetStack

/-!
A run is a list of operations, carried out one after the other whether they
succeed or not.  The link lets frames arrive and takes frames away, the stack is
polled or handed data at any layer, and anybody may send at any layer.  Of all
these operations only those by which a segment arrives reach a channel, and they
reach it through `processSegment` alone.
-/

namespace Interface

open Tcp (Segment)

/-- What can be done to an interface. -/
inductive Operation where
  | inject (frame : Bytes)
  | injectFragment (frame : Bytes)
  | completeTransmits
  | takeSent
  | drainSent
  | poll
  | pollFor (timeout : Duration)
  | listen
  | receiveFrame (out : Bytes)
  | receivePacket (packet : Bytes)
  | receiveSegment (sender : Ipv4Address) (data : Bytes)
  | processSegment (segment : Segment)
  | resolve (data : Bytes)
  | receiveEcho (sender : Ipv4Address) (message : Bytes)
  | receiveDatagram (datagram : Bytes)
  | sendFrame (header : Ethernet.Header) (payload : Bytes)
  | sendPacket (protocol : UInt8) (destination : Ipv4Address) (payload : Bytes)
  | sendSegment (port : UInt16) (flags : Tcp.Flags) (payload : Bytes)
  | sendAcknowledgment (port : UInt16) (flags : Tcp.Flags)
  | sendDatagram (data : Bytes)
  | askAddress (target : Ipv4Address)
  | tellAddress (question : Arp.Message)
  | transmit (frame : Bytes)
  | receive (buffer : Bytes)

/-- Carry an operation out for its effect and its success alone. -/
def perform : Operation → Action Interface Unit
  | .inject frame => (fun _ => ()) <$> onNic (Nic.inject frame)
  | .injectFragment frame => (fun _ => ()) <$> onNic (Nic.injectFragment frame)
  | .completeTransmits => onNic Nic.completeTransmits
  | .takeSent => (fun _ => ()) <$> onNic Nic.takeSent
  | .drainSent => (fun _ => ()) <$> onNic Nic.drainSent
  | .poll => (fun _ => ()) <$> Interface.poll
  | .pollFor timeout => (fun _ => ()) <$> Interface.pollFor timeout
  | .listen => (fun _ => ()) <$> Interface.listen
  | .receiveFrame out => (fun _ => ()) <$> pollInto out
  | .receivePacket packet => Interface.receivePacket packet
  | .receiveSegment sender data => Interface.receiveSegment sender data
  | .processSegment segment => Interface.processSegment segment
  | .resolve data => Interface.resolve data
  | .receiveEcho sender message => Interface.receiveEcho sender message
  | .receiveDatagram datagram => Interface.receiveDatagram datagram
  | .sendFrame header payload => Interface.sendFrame header payload
  | .sendPacket protocol destination payload => Interface.sendPacket protocol destination payload
  | .sendSegment port flags payload => Interface.sendSegment port flags payload
  | .sendAcknowledgment port flags => Interface.sendAcknowledgment port flags
  | .sendDatagram data => Interface.sendDatagram data
  | .askAddress target => Interface.askAddress target
  | .tellAddress question => Interface.tellAddress question
  | .transmit frame => onNic (Nic.transmit frame)
  | .receive buffer => (fun _ => ()) <$> onNic (Nic.receive buffer)

namespace Operation

/-- What the operation answers. -/
def result (operation : Operation) (interface : Interface) : Except Failure Unit :=
  ((perform operation).outcome interface).1

/-- The interface after the operation. -/
def next (operation : Operation) (interface : Interface) : Interface :=
  ((perform operation).outcome interface).2

/-- What arrives changes the adapter, and nothing else. -/
theorem next_inject (frame : Bytes) (interface : Interface) :
    (Operation.inject frame).next interface =
      { interface with nic := ((Nic.inject frame).outcome interface.nic).2 } := by
  rw [next, perform, Action.outcome_map]
  rfl

theorem next_injectFragment (frame : Bytes) (interface : Interface) :
    (Operation.injectFragment frame).next interface =
      { interface with nic := ((Nic.injectFragment frame).outcome interface.nic).2 } := by
  rw [next, perform, Action.outcome_map]
  rfl

end Operation

/-- Polling, apart from how long the frame was. -/
theorem outcome_perform_poll (interface : Interface) :
    (perform .poll).outcome interface =
      ((poll.outcome interface).1.map fun _ => (), (poll.outcome interface).2) :=
  Action.outcome_map _ _ _

/-- The interface after a run. -/
def after (interface : Interface) : List Operation → Interface
  | [] => interface
  | operation :: operations => after (operation.next interface) operations

/-- One operation of a run, and the interface that it was carried out on. -/
structure Turn where
  before : Interface
  operation : Operation

/-- The operations of a run, each with the interface it met. -/
def turns (interface : Interface) : List Operation → List Turn
  | [] => []
  | operation :: operations =>
      ⟨interface, operation⟩ :: turns (operation.next interface) operations

theorem after_append (interface : Interface) (earlier later : List Operation) :
    interface.after (earlier ++ later) = (interface.after earlier).after later := by
  induction earlier generalizing interface with
  | nil => rfl
  | cons operation earlier inductiveHypothesis => exact inductiveHypothesis _

@[simp] theorem after_concat (interface : Interface) (operations : List Operation)
    (operation : Operation) :
    interface.after (operations ++ [operation]) = operation.next (interface.after operations) :=
  interface.after_append operations [operation]

theorem turns_append (interface : Interface) (earlier later : List Operation) :
    interface.turns (earlier ++ later) =
      interface.turns earlier ++ (interface.after earlier).turns later := by
  induction earlier generalizing interface with
  | nil => rfl
  | cons operation earlier inductiveHypothesis =>
      exact congrArg (⟨interface, operation⟩ :: ·) (inductiveHypothesis _)

@[simp] theorem turns_concat (interface : Interface) (operations : List Operation)
    (operation : Operation) :
    interface.turns (operations ++ [operation]) =
      interface.turns operations ++ [⟨interface.after operations, operation⟩] :=
  interface.turns_append operations [operation]

/-- What every operation preserves holds after every run. -/
theorem holds_after {invariant : Interface → Prop}
    (preserved : ∀ interface (operation : Operation), invariant interface →
      invariant (operation.next interface))
    {interface : Interface} (holds : invariant interface) (operations : List Operation) :
    invariant (interface.after operations) := by
  induction operations generalizing interface with
  | nil => exact holds
  | cons operation operations inductiveHypothesis =>
      exact inductiveHypothesis (preserved interface operation holds)

/-! ## Arrivals -/

/-- The segment in the frame in front, if a payload has `room` bytes. -/
def frontSegment? (interface : Interface) (room : Nat) : Option Segment :=
  interface.nic.front?.bind (Segment.ofFrame? room)

/-- The segment that arrives by an operation. -/
def arrival (interface : Interface) : Operation → Option Segment
  | .poll => interface.frontSegment? packetSize
  | .pollFor timeout =>
      match ((Nic.awaitReceive timeout).outcome interface.nic).1 with
      | .ok () => interface.frontSegment? packetSize
      | .error _ => none
  | .listen => if interface.nic.receiveReady then interface.frontSegment? packetSize else none
  | .receiveFrame out => interface.frontSegment? out.length
  | .receivePacket packet => Segment.ofPacket? packet
  | .receiveSegment sender data => Segment.ofPayload? sender data
  | .processSegment segment => some segment
  | _ => none

variable {interface : Interface} {traffic : Traffic}

theorem Quiet.discard {α : Type} {action : Action Interface α} (quiet : Quiet action) :
    Quiet ((fun _ => ()) <$> action) := by
  intro interface
  rw [Action.outcome_map]
  exact quiet interface

/-- Waiting for a frame moves the clock on, and nothing else. -/
theorem outcome_awaitReceive (timeout : Duration) (nic : Nic) :
    ∃ clock, ((Nic.awaitReceive timeout).outcome nic).2 = { nic with clock } := by
  rw [← Action.state_eq]
  unfold Nic.awaitReceive Nic.await
  split
  · exact ⟨nic.clock, rfl⟩
  · next wait _ =>
    dsimp only
    split <;> exact ⟨wait.clock, rfl⟩

/-- On a clock that has moved on, the adapter carries the same. -/
theorem carries_waited {nic after : Nic} (carries : nic.Carries traffic) {timeout : Duration}
    {answer : Except Failure Unit}
    (waited : (Nic.awaitReceive timeout).outcome nic = (answer, after)) :
    after.Carries traffic := by
  obtain ⟨clock, moved⟩ := outcome_awaitReceive timeout nic
  rw [waited] at moved
  dsimp only at moved
  rw [moved]
  exact ⟨carries.rig, carries.prompt⟩

theorem quiet_awaitReceive (timeout : Duration) : Quiet (onNic (Nic.awaitReceive timeout)) := by
  refine quiet_onNic fun nic automatic wired => ?_
  obtain ⟨traffic, carries, same⟩ := wired
  exact ⟨traffic, carries_waited carries rfl, same⟩

theorem quiet_listen : Quiet (onNic Nic.listen) := by
  refine quiet_onNic fun nic automatic wired => ?_
  unfold Nic.listen
  rw [Action.outcome_get_bind]
  split <;> exact wired

/-- A segment that arrives in a frame is processed on an adapter that lacks no
more than that frame. -/
theorem pollInto_of_arrival (carries : interface.nic.Carries traffic) {out : Bytes}
    {segment : Segment} (arrives : interface.frontSegment? out.length = some segment) :
    ∃ nic waiting, nic.Carries { traffic with waiting } ∧
      ((fun _ => ()) <$> pollInto out).outcome interface =
        (processSegment segment).outcome { interface with nic } := by
  obtain ⟨frame, front, carried⟩ := Option.bind_eq_some_iff.mp arrives
  rw [carries.front?] at front
  obtain ⟨nic, -, onNic, polled⟩ := pollInto_of_some carries front carried
  refine ⟨nic, traffic.waiting.tail, onNic, ?_⟩
  rw [Action.outcome_map, polled]
  rcases (processSegment segment).outcome { interface with nic } with ⟨answer, last⟩
  cases answer <;> rfl

theorem pollInto_of_no_arrival (carries : interface.nic.Carries traffic) {out : Bytes}
    (missing : interface.frontSegment? out.length = none) :
    Undisturbed interface (((fun _ => ()) <$> pollInto out).outcome interface).2 := by
  rw [Action.outcome_map]
  cases next : traffic.next? with
  | none =>
      rw [outcome_pollInto_idle carries next]
      exact interface.undisturbed_taken
  | some frame =>
      rw [frontSegment?, carries.front?, next] at missing
      exact pollInto_of_none carries next missing

/-- Two adapters that carry the same traffic have the same frame in front. -/
theorem frontSegment?_of_carries (carries : interface.nic.Carries traffic) {nic : Nic}
    (waited : nic.Carries traffic) (room : Nat) :
    { interface with nic }.frontSegment? room = interface.frontSegment? room := by
  rw [frontSegment?, frontSegment?, waited.front?, carries.front?]

/-- Polling after a successful wait is polling. -/
theorem outcome_wait_poll {wait : Action Nic Unit} {nic : Nic}
    (succeeds : wait.outcome interface.nic = (.ok (), nic)) :
    ((fun _ => ()) <$> (do onNic wait; Interface.poll)).outcome interface =
      ((fun _ => ()) <$> pollInto (.zeros packetSize)).outcome { interface with nic } := by
  have waited : (onNic wait).outcome interface = (.ok (), { interface with nic }) := by
    rw [outcome_onNic, succeeds]
  rw [Action.outcome_map, Action.outcome_bind_of_ok waited, Action.outcome_map, poll_eq_pollInto]

/-- Polling after a wait disturbs no channel unless polling does. -/
theorem undisturbed_wait_poll {wait : Action Nic Unit} (quiet : Quiet (onNic wait))
    (onward : ∀ nic, wait.outcome interface.nic = (.ok (), nic) →
      Undisturbed { interface with nic }
        (((fun _ => ()) <$> pollInto (.zeros packetSize)).outcome { interface with nic }).2) :
    Undisturbed interface
      (((fun _ => ()) <$> (do onNic wait; Interface.poll)).outcome interface).2 := by
  have begun := quiet interface
  rcases done : wait.outcome interface.nic with ⟨answer, nic⟩
  rw [outcome_onNic, done] at begun
  cases answer with
  | ok value =>
      rw [outcome_wait_poll done]
      exact begun.trans (onward nic done)
  | error failure =>
      have waited : (onNic wait).outcome interface = (.error failure, { interface with nic }) := by
        rw [outcome_onNic, done]
      rw [Action.outcome_map, Action.outcome_bind_of_error waited]
      exact begun

/-- An operation by which a segment arrives processes that segment. -/
theorem perform_of_arrival (carries : interface.nic.Carries traffic) {operation : Operation}
    {segment : Segment} (arrives : interface.arrival operation = some segment) :
    ∃ nic waiting, nic.Carries { traffic with waiting } ∧
      (perform operation).outcome interface =
        (processSegment segment).outcome { interface with nic } := by
  cases operation with
  | poll =>
      rw [arrival, ← Bytes.length_zeros packetSize] at arrives
      exact pollInto_of_arrival carries arrives
  | pollFor timeout =>
      rcases waited : (Nic.awaitReceive timeout).outcome interface.nic with ⟨answer, moved⟩
      have onWaited : moved.Carries traffic := carries_waited carries waited
      cases answer with
      | error failure => simp [arrival, waited] at arrives
      | ok value =>
          rw [arrival, waited] at arrives
          dsimp only at arrives
          rw [← frontSegment?_of_carries carries onWaited, ← Bytes.length_zeros packetSize]
            at arrives
          obtain ⟨nic, waiting, onNic, polled⟩ := pollInto_of_arrival onWaited arrives
          refine ⟨nic, waiting, onNic, ?_⟩
          rw [← polled]
          exact outcome_wait_poll waited
  | listen =>
      cases ready : interface.nic.receiveReady with
      | false => simp [arrival, ready] at arrives
      | true =>
          have found : Nic.listen.outcome interface.nic = (.ok (), interface.nic) := by
            unfold Nic.listen
            rw [Action.outcome_get_bind, ready]
            rfl
          rw [arrival, ready, if_pos rfl, ← Bytes.length_zeros packetSize] at arrives
          obtain ⟨nic, waiting, onNic, polled⟩ := pollInto_of_arrival carries arrives
          refine ⟨nic, waiting, onNic, ?_⟩
          rw [← polled]
          exact outcome_wait_poll found
  | receiveFrame out => exact pollInto_of_arrival carries arrives
  | receivePacket packet => exact ⟨_, _, carries, receivePacket_of_some arrives interface⟩
  | receiveSegment sender data =>
      exact ⟨_, _, carries, receiveSegment_of_some arrives interface⟩
  | processSegment given =>
      cases arrives
      exact ⟨_, _, carries, rfl⟩
  | _ => cases arrives

/-- An operation by which no segment arrives disturbs no channel. -/
theorem undisturbed_of_no_arrival (carries : interface.nic.Carries traffic)
    {operation : Operation} (missing : interface.arrival operation = none) :
    Undisturbed interface (operation.next interface) := by
  cases operation with
  | inject frame =>
      exact (quiet_onNic fun _ _ wired => wired.inject frame).discard interface
  | injectFragment frame =>
      exact (quiet_onNic fun _ _ wired => wired.injectFragment frame).discard interface
  | completeTransmits => exact quiet_onNic (fun _ _ wired => wired.completeTransmits) interface
  | takeSent => exact (quiet_onNic fun _ _ wired => wired.takeSent).discard interface
  | drainSent => exact (quiet_onNic fun _ _ wired => wired.drainSent).discard interface
  | poll =>
      rw [arrival, ← Bytes.length_zeros packetSize] at missing
      exact pollInto_of_no_arrival carries missing
  | pollFor timeout =>
      refine undisturbed_wait_poll (quiet_awaitReceive timeout) fun nic waited => ?_
      have onWaited : nic.Carries traffic := carries_waited carries waited
      rw [arrival, waited] at missing
      dsimp only at missing
      rw [← frontSegment?_of_carries carries onWaited, ← Bytes.length_zeros packetSize] at missing
      exact pollInto_of_no_arrival onWaited missing
  | listen =>
      refine undisturbed_wait_poll quiet_listen fun nic waited => ?_
      unfold Nic.listen at waited
      rw [Action.outcome_get_bind] at waited
      cases ready : interface.nic.receiveReady with
      | false => simp [ready] at waited
      | true =>
          rw [ready] at waited
          cases waited
          rw [arrival, ready, if_pos rfl, ← Bytes.length_zeros packetSize] at missing
          exact pollInto_of_no_arrival carries missing
  | receiveFrame out => exact pollInto_of_no_arrival carries missing
  | receivePacket packet => exact receivePacket_of_none missing interface
  | receiveSegment sender data => exact receiveSegment_of_none missing interface
  | processSegment segment => cases missing
  | resolve data => exact quiet_resolve data interface
  | receiveEcho sender message => exact quiet_receiveEcho sender message interface
  | receiveDatagram datagram => exact quiet_receiveDatagram datagram interface
  | sendFrame header payload => exact quiet_sendFrame header payload interface
  | sendPacket protocol destination payload =>
      exact quiet_sendPacket protocol destination payload interface
  | sendSegment port flags payload => exact quiet_sendSegment port flags payload interface
  | sendAcknowledgment port flags => exact quiet_sendAcknowledgment port flags interface
  | sendDatagram data => exact quiet_sendDatagram data interface
  | askAddress target => exact quiet_askAddress target interface
  | tellAddress question => exact quiet_tellAddress question interface
  | transmit frame => exact quiet_onNic (fun _ _ wired => wired.transmit frame) interface
  | receive buffer => exact (quiet_receive buffer).discard interface

end Interface

/-! ## Where runs start -/

/-- A software adapter, the memory that its rings lie in, and a configuration.
Memory never lies at the address zero, which stands for a ring that is not
there. -/
structure Setup where
  mac : MacAddress
  /-- Whether the adapter sends frames by itself, or is stalled. -/
  automatic : Bool
  clock : StepClock
  addresses : BusAddresses
  config : Config
  transmitMapped : addresses.transmit ≠ 0
  receiveMapped : addresses.receive ≠ 0

namespace Setup

/-- The default configuration on a running or a stalled adapter. -/
def default (automatic : Bool) : Setup where
  mac := Config.default.mac
  automatic := automatic
  clock := { now := 0, step := 1, frequency := 1000 }
  addresses := { transmit := 0x1000, receive := 0x2000 }
  config := .default
  transmitMapped := by decide
  receiveMapped := by decide

/-- The interface that is brought up over a freshly attached adapter. -/
def start (setup : Setup) : Interface :=
  (Interface.bringUp
    (.software { SoftwareAdapter.running setup.mac with automatic := setup.automatic })
    setup.clock setup.addresses setup.config).state

theorem carries_start (setup : Setup) : setup.start.nic.Carries (.none setup.automatic) := by
  have attached := Nic.carries_attach setup.mac setup.automatic setup.clock
    setup.transmitMapped setup.receiveMapped
  rw [start, Interface.bringUp, Interface.fresh]
  exact attached

theorem config_start (setup : Setup) : setup.start.config = setup.config := rfl

theorem pool_start (setup : Setup) :
    setup.start.pool = .listening setup.config.address setup.config.hostAddress := rfl

end Setup

end NetStack
