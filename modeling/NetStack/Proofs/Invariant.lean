/-
Module: NetStack.Proofs.Invariant
Purpose: What one operation can do to the channels, and what therefore holds of
  every channel after every run.
Main exports:
  Interface.Sound, Interface.Steps, Interface.Sound.steps,
  Interface.Sound.next, Setup.sound_after, Setup.channel_invariant
-/
import NetStack.Proofs.Processing
import NetStack.Proofs.Run

namespace NetStack

namespace Interface

open Tcp (Segment Reaction)

/-- An interface between two operations. -/
structure Sound (interface : Interface) (automatic : Bool) : Prop where
  wired : interface.nic.Wired automatic
  bound : interface.pool.Bound interface.config.address
  channels : ∀ index, (interface.pool.get index).Sound

/-- What one operation can do.  Either it leaves every channel alone, because no
segment arrives or because the segment is refused, or one channel reacts. -/
inductive Steps (interface : Interface) (operation : Operation) : Prop where
  | quiet
      (missing : interface.arrival operation = none)
      (undisturbed : Undisturbed interface (operation.next interface))
  | refused {segment : Segment} {failure : Failure}
      (arrives : interface.arrival operation = some segment)
      (answered : operation.result interface = .error failure)
      (undisturbed : Undisturbed interface (operation.next interface))
  | reacts {segment : Segment} {index : Fin Tcp.poolSize} {reaction : Reaction}
      {traffic : Traffic} {waiting : List Arrival} {nic : Nic} {identification : UInt16}
      (carries : interface.nic.Carries traffic)
      (arrives : interface.arrival operation = some segment)
      (serves : Tcp.Pool.localPort index = segment.header.destinationPort)
      (how : Tcp.Channel.Reacts (interface.pool.get index) segment reaction)
      (answered : operation.result interface = reaction.verdict traffic.hasRoom)
      (becomes : operation.next interface =
        { interface with
          nic
          identification
          pool := interface.pool.set index (reaction.channelAfter traffic.hasRoom) })
      (onNic : nic.Carries (interface.answered reaction { traffic with waiting }))

variable {interface : Interface} {automatic : Bool}

/-- Operations do nothing else. -/
theorem Sound.steps (sound : interface.Sound automatic) (operation : Operation) :
    Steps interface operation := by
  obtain ⟨traffic, carries, -⟩ := sound.wired
  cases arrives : interface.arrival operation with
  | none => exact .quiet arrives (undisturbed_of_no_arrival carries arrives)
  | some segment =>
      obtain ⟨nic, waiting, onNic, performed⟩ := perform_of_arrival carries arrives
      have taken : Undisturbed interface { interface with nic } :=
        ⟨rfl, rfl, carries.keeps_wired onNic rfl⟩
      -- A refusal leaves the interface as it was once the frame was taken.
      have drop {failure : Failure}
          (processed : (processSegment segment).outcome { interface with nic } =
            (.error failure, { interface with nic })) :
          Steps interface operation := by
        rw [processed] at performed
        refine .refused arrives (congrArg Prod.fst performed) ?_
        rw [Operation.next, performed]
        exact taken
      cases serves : interface.pool.find? segment.header.destinationPort with
      | none => exact drop (processSegment_unbound serves)
      | some index =>
          cases reacts : (interface.pool.get index).react (interface.pool.fresh index) segment with
          | error failure => exact drop (processSegment_refused serves reacts)
          | ok reaction =>
              let polled : Interface := { interface with nic }
              have onPolled : polled.nic.Carries { traffic with waiting } := onNic
              obtain ⟨last, identification, processed, onLast⟩ :=
                processSegment_reacts onPolled serves reacts
              rw [processed] at performed
              have onLoop := (sound.channels index).onLoop
              exact .reacts carries arrives
                ((Tcp.Pool.find?_eq_some_iff sound.bound).mp serves)
                ((Tcp.Channel.react_eq_ok_iff onLoop).mp reacts)
                (congrArg Prod.fst performed) (congrArg Prod.snd performed) onLast

/-- An interface on which no channel was disturbed is as sound as before. -/
theorem Undisturbed.sound {later : Interface} (undisturbed : Undisturbed interface later)
    (sound : interface.Sound automatic) : later.Sound automatic where
  wired := undisturbed.wired automatic sound.wired
  bound := by
    rw [undisturbed.pool, undisturbed.config]
    exact sound.bound
  channels := by
    rw [undisturbed.pool]
    exact sound.channels

theorem Sound.next (sound : interface.Sound automatic) (operation : Operation) :
    (operation.next interface).Sound automatic := by
  cases sound.steps operation with
  | quiet missing undisturbed => exact undisturbed.sound sound
  | refused arrives answered undisturbed => exact undisturbed.sound sound
  | reacts carries arrives serves how answered becomes onNic =>
      rw [becomes]
      constructor
      · refine carries.keeps_wired onNic ?_ automatic sound.wired
        rw [automatic_answered]
      · exact sound.bound.set (how.host_eq _)
      · intro other
        dsimp only
        rw [Tcp.Pool.get_set]
        split
        · next here =>
          subst here
          exact how.sound _ (sound.channels _)
        · exact sound.channels other

theorem Sound.after (sound : interface.Sound automatic) (operations : List Operation) :
    (interface.after operations).Sound automatic := by
  have preserved : ∀ interface (operation : Operation), interface.Sound automatic →
      (operation.next interface).Sound automatic := fun _ operation sound => sound.next operation
  exact holds_after preserved sound operations

/-- No operation moves a channel further than one step along its loop. -/
theorem Sound.progress (sound : interface.Sound automatic) (operation : Operation)
    (index : Fin Tcp.poolSize) :
    ((operation.next interface).pool.get index).state = (interface.pool.get index).state ∨
      Tcp.State.Follows (interface.pool.get index).state
        ((operation.next interface).pool.get index).state := by
  cases sound.steps operation with
  | quiet missing undisturbed =>
      left
      rw [undisturbed.pool]
  | refused arrives answered undisturbed =>
      left
      rw [undisturbed.pool]
  | reacts carries arrives serves how answered becomes onNic =>
      rw [becomes]
      dsimp only
      rw [Tcp.Pool.get_set]
      split
      · next here =>
        subst here
        exact how.progress _
      · exact .inl rfl

/-- No operation changes the configuration. -/
theorem Sound.config_next (sound : interface.Sound automatic) (operation : Operation) :
    (operation.next interface).config = interface.config := by
  cases sound.steps operation with
  | quiet missing undisturbed => exact undisturbed.config
  | refused arrives answered undisturbed => exact undisturbed.config
  | reacts carries arrives serves how answered becomes onNic => rw [becomes]

end Interface

namespace Setup

open Interface (Operation)

theorem sound_start (setup : Setup) : setup.start.Sound setup.automatic where
  wired := ⟨_, setup.carries_start, rfl⟩
  bound := Tcp.Pool.bound_listening _ _
  channels := by
    intro index
    rw [pool_start, Tcp.Pool.get_listening]
    exact Tcp.Channel.sound_listening _ _

/-- After every run the interface is sound, with the configuration it had. -/
theorem sound_after (setup : Setup) (operations : List Operation) :
    (setup.start.after operations).Sound setup.automatic ∧
      (setup.start.after operations).config = setup.config := by
  have preserved : ∀ interface (operation : Operation),
      interface.Sound setup.automatic ∧ interface.config = setup.config →
      (operation.next interface).Sound setup.automatic ∧
        (operation.next interface).config = setup.config := by
    rintro interface operation ⟨sound, same⟩
    exact ⟨sound.next operation, (sound.config_next operation).trans same⟩
  exact Interface.holds_after preserved ⟨setup.sound_start, rfl⟩ operations

/-- After every run, whatever was received or sent and whether the transmit ring
was full or not, every channel is bound as it was at first and serves its port,
and has kept to its loop.  It has received something only while it is
established, always less than a window, and its two numbers agree with what it
received. -/
theorem channel_invariant (setup : Setup) (operations : List Operation)
    (index : Fin Tcp.poolSize) :
    let reached := setup.start.after operations
    let channel := reached.pool.get index
    channel.host =
        ⟨setup.config.address,
          if index.val = 0 then 80 else UInt16.ofNat (7999 + index.val)⟩ ∧
      reached.pool.find? channel.host.port = some index ∧
      (∀ port, reached.pool.find? port = setup.start.pool.find? port) ∧
      channel.state ∈ [.listen, .synReceived, .established, .closeWait] ∧
      (∀ operation : Operation,
        ((operation.next reached).pool.get index).state = channel.state ∨
          channel.state.Follows ((operation.next reached).pool.get index).state) ∧
      (channel.state ≠ .established → channel.received = []) ∧
      channel.received.length < 14600 ∧
      (channel.state = .synReceived → channel.sequence = channel.acknowledgment) ∧
      (channel.state = .established →
        channel.acknowledgment =
          channel.sequence + UInt32.ofNat channel.received.length) := by
  intro reached channel
  obtain ⟨sound, same⟩ := setup.sound_after operations
  have channelSound : channel.Sound := sound.channels index
  have host : channel.host = ⟨setup.config.address, Tcp.Pool.localPort index⟩ := by
    rw [← same]
    exact sound.bound index
  have length := channelSound.length_received
  refine ⟨?_, ?_, ?_, channelSound.onLoop, ?_, ?_, ?_, channelSound.opening, ?_⟩
  · rw [host]
    obtain ⟨number, inside⟩ := index
    cases number <;> rfl
  · rw [host, Tcp.Pool.find?_eq_some_iff sound.bound]
  · exact sound.bound.find?_eq setup.sound_start.bound
  · exact fun operation => sound.progress operation index
  · intro other
    rw [channelSound.idle other] at length
    exact List.length_eq_zero_iff.mp length
  · rw [length]
    exact channelSound.short
  · intro waiting
    rw [length]
    exact channelSound.counted waiting

end Setup

end NetStack
