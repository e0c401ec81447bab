/-
Module: NetStack.Proofs.Resolution
Purpose: Which bindings an interface has after a run, and how two stations come to
  know each other: one asks, the other tells, and then there is silence.
Main exports:
  Interface.Sound.cache_next, Interface.Sound.cache_after, Interface.Idles,
  Interface.Idles.pinned_after, Arp.Message.Standard,
  Interface.CarriesMessage.arriving, Interface.Resting.hears,
  Interface.Resting.asks, Interface.resolution_binds_both
-/
import NetStack.Proofs.Answering

namespace NetStack

open Interface (Operation)

/-!
Whatever is done to an interface, its table of bindings is that of some sightings,
and so it is a first-come table after every run.  A question is itself a sighting of
whoever asks, and the answer is one of whoever tells: after one of each the two
stations know each other.  An answer is never answered, and a question only by the
station that it is for.
-/

/-! ## The bindings after a run -/

namespace Interface

variable {interface : Interface} {automatic : Bool}

/-- What is remembered of the bindings is what was known before, or one of the memories
that the handling names. -/
theorem Handling.cache_outcome (handling : Handling) (interface : Interface) :
    (handling.outcome interface).2.cache = interface.cache ∨
      ∃ memory ∈ handling.memories, (handling.outcome interface).2.cache = memory.cache := by
  cases handling with
  | refuses failure => exact .inl rfl
  | settles next => exact .inr ⟨next, List.mem_cons_self, rfl⟩
  | answers frame sent unsent excused =>
      right
      rw [Handling.outcome]
      rcases (Nic.transmit frame).outcome interface.nic with ⟨answer, nic⟩
      cases answer with
      | ok value => exact ⟨sent, List.mem_cons_self, rfl⟩
      | error failure => exact ⟨unsent, List.mem_cons_of_mem _ List.mem_cons_self, rfl⟩

/-- A handling after which every binding stems from sightings. -/
def Learns (interface : Interface) (handling : Handling) : Prop :=
  ∀ memory ∈ handling.memories, interface.cache.Becomes memory.cache

theorem learns_parcel (interface : Interface) (parcel : Parcel) :
    interface.Learns (interface.handling parcel) :=
  fun _ member => ⟨parcel.sightings, ((interface.deals parcel).recalls member).cache_eq⟩

theorem learns_refuses (interface : Interface) (failure : Failure) :
    interface.Learns (.refuses failure) :=
  nofun

/-- To send something teaches nothing. -/
theorem learns_answers {frame : Bytes} {sent : Memory} {excused : Bool}
    (kept : sent.cache = interface.cache) :
    interface.Learns (.answers frame sent sent excused) := by
  intro memory member
  have same : memory = sent := by simpa [Handling.memories] using member
  rw [same, kept]
  exact .refl _

theorem learns_packetHandling (interface : Interface) (protocol : UInt8)
    (destination : Ipv4Address) (made : Except Fault Bytes) :
    interface.Learns (interface.packetHandling protocol destination made) := by
  cases made with
  | error cause => exact interface.learns_refuses _
  | ok payload => exact learns_answers rfl

theorem learns_pollHandling (interface : Interface) (room : Nat) :
    interface.Learns (interface.pollHandling room) := by
  obtain ⟨parcel, handles, -⟩ := interface.pollHandling_eq room
  rw [handles]
  exact interface.learns_parcel parcel

theorem learns_frameHandling (interface : Interface) (header : Ethernet.Header)
    (payload : Bytes) : interface.Learns (interface.frameHandling header payload) := by
  unfold frameHandling
  split
  · exact interface.learns_refuses _
  · split
    · exact interface.learns_refuses _
    · exact learns_answers rfl

theorem learns_payloadHandling (interface : Interface) (protocol : UInt8)
    (destination : Ipv4Address) (payload : Bytes) :
    interface.Learns (interface.payloadHandling protocol destination payload) := by
  unfold payloadHandling
  split
  · exact interface.learns_refuses _
  · exact interface.learns_packetHandling _ _ _

theorem learns_channelHandling (interface : Interface) (port : UInt16) (flags : Tcp.Flags)
    (payload : Bytes) : interface.Learns (interface.channelHandling port flags payload) := by
  unfold channelHandling
  cases interface.pool.find? port with
  | none => exact interface.learns_refuses _
  | some index => exact interface.learns_packetHandling _ _ _

/-- Whatever an operation asks for, no binding is made up. -/
theorem learns_duty {operation : Operation} {handling : Handling}
    (due : interface.duty operation = some handling) : interface.Learns handling := by
  cases operation with
  | poll =>
      obtain rfl := Option.some.inj due
      exact interface.learns_pollHandling _
  | pollFor timeout =>
      rw [duty] at due
      split at due
      · obtain rfl := Option.some.inj due
        exact interface.learns_pollHandling _
      · obtain rfl := Option.some.inj due
        exact interface.learns_refuses _
  | listen =>
      rw [duty] at due
      split at due
      · obtain rfl := Option.some.inj due
        exact interface.learns_pollHandling _
      · obtain rfl := Option.some.inj due
        exact interface.learns_refuses _
  | receiveFrame out =>
      obtain rfl := Option.some.inj due
      exact interface.learns_pollHandling _
  | sendFrame header payload =>
      obtain rfl := Option.some.inj due
      exact interface.learns_frameHandling _ _
  | sendPacket protocol destination payload =>
      obtain rfl := Option.some.inj due
      exact interface.learns_payloadHandling _ _ _
  | sendSegment port flags payload =>
      obtain rfl := Option.some.inj due
      exact interface.learns_channelHandling _ _ _
  | sendAcknowledgment port flags =>
      obtain rfl := Option.some.inj due
      exact interface.learns_channelHandling _ _ _
  | askAddress target =>
      obtain rfl := Option.some.inj due
      exact learns_answers rfl
  | tellAddress question =>
      obtain rfl := Option.some.inj due
      exact learns_answers rfl
  | transmit frame =>
      obtain rfl := Option.some.inj due
      exact learns_answers rfl
  | receivePacket packet =>
      obtain rfl := Option.some.inj due
      exact interface.learns_parcel _
  | receiveSegment sender data =>
      obtain rfl := Option.some.inj due
      exact interface.learns_parcel _
  | processSegment segment =>
      obtain rfl := Option.some.inj due
      exact interface.learns_parcel _
  | resolve data =>
      obtain rfl := Option.some.inj due
      exact interface.learns_parcel _
  | receiveEcho sender message =>
      obtain rfl := Option.some.inj due
      exact interface.learns_parcel _
  | receiveDatagram datagram =>
      obtain rfl := Option.some.inj due
      exact interface.learns_parcel _
  | sendDatagram data =>
      obtain rfl := Option.some.inj due
      exact interface.learns_parcel _
  | _ => cases due

/-- After an operation the table is that of some more sightings. -/
theorem Sound.cache_next (sound : interface.Sound automatic) (operation : Operation) :
    interface.cache.Becomes (operation.next interface).cache := by
  obtain ⟨traffic, carries, -⟩ := sound.wired
  cases due : interface.duty operation with
  | none =>
      obtain ⟨nic, later, -, -, done⟩ := outcome_no_duty carries due
      rw [Operation.next, done]
      exact .refl _
  | some handling =>
      obtain ⟨nic, waiting, -, done⟩ := outcome_duty carries due
      rw [Operation.next, done]
      rcases handling.cache_outcome { interface with nic } with kept | ⟨memory, member, becomes⟩
      · rw [kept]
        exact .refl _
      · rw [becomes]
        exact learns_duty due memory member

theorem Sound.cache_after (sound : interface.Sound automatic) (operations : List Operation) :
    interface.cache.Becomes (interface.after operations).cache := by
  induction operations generalizing interface with
  | nil => exact .refl _
  | cons operation operations inductiveHypothesis =>
      exact (sound.cache_next operation).trans (inductiveHypothesis (sound.next operation))

end Interface

/-- The binding that a setup pins. -/
def Setup.pinned (setup : Setup) : Arp.Binding :=
  ⟨setup.config.hostAddress, setup.config.hostMac⟩

/-- After every run the table is that of some sightings. -/
theorem Setup.cache_after (setup : Setup) (operations : List Operation) :
    ∃ sightings, (setup.start.after operations).cache =
      (Arp.Cache.pinning setup.pinned.address setup.pinned.mac).observeAll sightings :=
  setup.sound_start.cache_after operations

namespace Interface

/-- A state without a waiting frame to which a run on a running adapter leads. -/
def Idles (station : Interface) : Prop :=
  ∃ setup : Setup, setup.automatic = true ∧ ∃ operations, setup.start.after operations = station ∧
    station.nic.receiveReady = false

namespace Idles

variable {station : Interface}

theorem resting (idles : station.Idles) : station.Resting := by
  obtain ⟨setup, running, operations, rfl, idle⟩ := idles
  exact setup.resting_after running operations idle

/-- Its table is that of some sightings. -/
theorem cache_eq (idles : station.Idles) :
    ∃ (pinned : Arp.Binding) (sightings : List Arp.Binding), station.cache =
      (Arp.Cache.pinning pinned.address pinned.mac).observeAll sightings := by
  obtain ⟨setup, -, operations, rfl, -⟩ := idles
  exact ⟨setup.pinned, setup.cache_after operations⟩

/-- What is pinned stays pinned, and is what is looked up, whatever is done. -/
theorem pinned_after (idles : station.Idles) {address : Ipv4Address} {mac : MacAddress}
    (held : Arp.Slot.pinned address mac ∈ station.cache.slots) (later : List Operation) :
    Arp.Slot.pinned address mac ∈ (station.after later).cache.slots ∧
      (station.after later).cache.lookup address = some mac := by
  obtain ⟨pinned, before, shown⟩ := idles.cache_eq
  obtain ⟨after, becomes⟩ := idles.resting.sound.cache_after later
  rw [shown, ← Arp.Cache.observeAll_append] at becomes
  rw [shown] at held
  obtain ⟨rfl, rfl⟩ := (Arp.pinned_mem_slots_iff pinned before).mp held
  rw [becomes]
  refine ⟨(Arp.pinned_mem_slots_iff pinned _).mpr ⟨rfl, rfl⟩, ?_⟩
  rw [Arp.lookup_observeAll, if_pos rfl]

end Idles

/-! ## Messages on the link -/

end Interface

/-- A message of the kind that stations send each other. -/
structure Arp.Message.Standard (message : Arp.Message) : Prop where
  hardware : message.hardwareType = Arp.ethernetHardware
  protocol : message.protocolType = Arp.ipv4Protocol
  named : Arp.Operation.ofWord message.operation.toWord = message.operation

theorem Arp.Message.standard_request (mac : MacAddress) (address target : Ipv4Address) :
    (Arp.Message.request mac address target).Standard :=
  ⟨rfl, rfl, rfl⟩

theorem Arp.Message.Standard.reply {question : Arp.Message} (standard : question.Standard)
    (mac : MacAddress) (address : Ipv4Address) : (question.reply mac address).Standard :=
  ⟨standard.hardware, standard.protocol, rfl⟩

namespace Interface

variable {station sender : Interface} {message : Arp.Message} {frame : Bytes}

/-- A message arrives as it was sent. -/
theorem CarriesMessage.arriving {config : Config} {destination : MacAddress}
    (carries : CarriesMessage config destination message frame) (standard : message.Standard)
    (fits : frame.length ≤ packetSize) : Parcel.arriving frame = .resolution message := by
  have whole : frame.take packetSize = frame := List.take_of_length_le fits
  have behind : (frame.drop Ethernet.headerLength).take packetSize =
      frame.drop Ethernet.headerLength := by
    apply List.take_of_length_le
    rw [List.length_drop]
    omega
  have nonempty : frame ≠ [] := by
    rintro rfl
    cases carries.outer
  rw [Parcel.arriving_of_nonempty (by rwa [whole]), whole, Parcel.ofFrame, carries.outer]
  dsimp only [Parcel.ofPayload]
  rw [behind, Parcel.ofResolution, carries.inner]
  dsimp only
  rw [if_neg (not_not.mpr standard.hardware), if_neg (not_not.mpr standard.protocol)]

theorem arriving_messageFrame (sender : Interface) (destination : MacAddress)
    (standard : message.Standard) :
    Parcel.arriving (sender.messageFrame destination message) = .resolution message := by
  refine (sender.carriesMessage_messageFrame destination standard.named).arriving standard ?_
  rw [length_messageFrame]
  decide

/-- A message is accepted, and it shows where its sender is.  It is answered if it asks
for our address, and otherwise nothing is sent. -/
theorem Resting.hears (resting : station.Resting)
    (carried : Parcel.arriving frame = .resolution message) :
    station.receipt frame =
        { frame
          accepted := .ok true
          answer := .ok (frame.take packetSize).length
          sent :=
            if message.targetAddress = station.config.address ∧ message.operation = .request then
              [station.messageFrame message.senderMac
                (message.reply station.config.mac station.config.address)]
            else [] } ∧
      (station.after [.inject frame, .poll]).cache =
        (station.cache.observe message.senderAddress message.senderMac).2 := by
  obtain ⟨received, left, -⟩ := resting.delivery frame
  rw [carried] at received left
  constructor
  · rw [received, handling, resolutionHandling]
    dsimp only
    split
    · rw [Handling.frames, station.take_messageFrame]
      rfl
    · rfl
  · rw [left]
    exact station.cache_remembered (.resolution message)

/-- To ask for an address is to send one question to everybody. -/
theorem Resting.asks (resting : station.Resting) (target : Ipv4Address) :
    let asking := Operation.askAddress target
    asking.result station = .ok () ∧
      asking.emitted station = [station.messageFrame .broadcast
        (.request station.config.mac station.config.address target)] ∧
      (asking.next station).cache = station.cache ∧
      (asking.next station).Resting := by
  intro asking
  obtain ⟨answered, emitted, -⟩ := resting.sound.performs asking rfl
  obtain ⟨traffic, carries, running, -⟩ := resting.sound.at_rest resting.idle
  obtain ⟨handled, -, later, onLast, waiting⟩ :=
    Handling.outcome_running carries running carries (station.askHandling target)
  have becomes : asking.next station =
      { station.recalling station.memory with
        nic := (station.askHandling target).leaving station.nic } :=
    congrArg Prod.snd ((station.outcome_askAddress target).trans handled)
  refine ⟨answered, ?_, ?_, resting.sound.next asking, ?_⟩
  · rw [emitted]
    exact congrArg (· :: []) (station.take_messageFrame _ _)
  · rw [becomes]
    rfl
  · rw [becomes, onLast.receiveReady, waiting, ← carries.receiveReady]
    exact resting.idle

/-! ## A question, an answer, and silence -/

/-- The exchange binds both addresses and stops.  A station asks for the address of
another, and a third one hears it too.  The one that is asked answers with one frame,
the other with none, and the answer is not answered.  Then each of the two looks up the
other where it is, and everything else where it did before, as long as the binding can
be recorded at all.  What is pinned on any of the three stays so, whatever is done. -/
theorem resolution_binds_both {asker teller bystander : Interface} (asking : asker.Idles)
    (telling : teller.Idles) (standing : bystander.Idles)
    (apart : [asker.config.address, teller.config.address, bystander.config.address].Nodup)
    (learns : asker.cache.Admits teller.config.address)
    (learnsBack : teller.cache.Admits asker.config.address) :
    let ask := Operation.askAddress teller.config.address
    let asked := ask.next asker
    ∃ question answer : Bytes,
      let knows := asked.after (deliveries [answer])
      let told := teller.after (deliveries [question])
      ask.result asker = .ok () ∧ ask.emitted asker = [question] ∧
      CarriesMessage asker.config .broadcast
        (.request asker.config.mac asker.config.address teller.config.address) question ∧
      teller.receipt question =
        ⟨question, .ok true, .ok question.length, [answer]⟩ ∧
      CarriesMessage teller.config asker.config.mac
        { hardwareType := Arp.ethernetHardware
          protocolType := Arp.ipv4Protocol
          operation := .reply
          senderMac := teller.config.mac
          senderAddress := teller.config.address
          targetMac := asker.config.mac
          targetAddress := asker.config.address } answer ∧
      bystander.receipt question = ⟨question, .ok true, .ok question.length, []⟩ ∧
      asked.receipt answer = ⟨answer, .ok true, .ok answer.length, []⟩ ∧
      (knows.cache.lookup teller.config.address = some teller.config.mac ∧
        ∀ other, other ≠ teller.config.address →
          knows.cache.lookup other = asker.cache.lookup other) ∧
      (told.cache.lookup asker.config.address = some asker.config.mac ∧
        ∀ other, other ≠ asker.config.address →
          told.cache.lookup other = teller.cache.lookup other) ∧
      ∀ station ∈ [asker, teller, bystander], ∀ address mac,
        Arp.Slot.pinned address mac ∈ station.cache.slots → ∀ later : List Operation,
          Arp.Slot.pinned address mac ∈ (station.after later).cache.slots ∧
            (station.after later).cache.lookup address = some mac := by
  intro ask asked
  let asks : Arp.Message :=
    .request asker.config.mac asker.config.address teller.config.address
  let tells : Arp.Message := asks.reply teller.config.mac teller.config.address
  let question := asker.messageFrame .broadcast asks
  let answer := teller.messageFrame asker.config.mac tells
  have standard : asks.Standard := Arp.Message.standard_request _ _ _
  have standardAnswer : tells.Standard := standard.reply _ _
  obtain ⟨succeeds, emitted, unlearned, resting⟩ :=
    asking.resting.asks teller.config.address
  obtain ⟨answered, learned⟩ :=
    telling.resting.hears (asker.arriving_messageFrame .broadcast standard)
  obtain ⟨overheard, -⟩ :=
    standing.resting.hears (asker.arriving_messageFrame .broadcast standard)
  obtain ⟨silent, learnedBack⟩ :=
    resting.hears (teller.arriving_messageFrame asker.config.mac standardAnswer)
  -- The bystander stays silent because the question is not for its address.
  have elsewhere : teller.config.address ≠ bystander.config.address := by
    simp only [List.nodup_cons, List.mem_cons, not_or] at apart
    exact apart.2.1.1
  obtain ⟨pinned, sightings, shows⟩ := asking.cache_eq
  obtain ⟨pinnedThere, sightingsThere, showsThere⟩ := telling.cache_eq
  refine ⟨question, answer, ?_⟩
  intro knows told
  refine ⟨succeeds, emitted, asker.carriesMessage_messageFrame _ rfl, ?_,
    teller.carriesMessage_messageFrame _ rfl, ?_, ?_, ?_, ?_, ?_⟩
  · rw [answered, if_pos ⟨rfl, rfl⟩, asker.take_messageFrame]
    rfl
  · rw [overheard, if_neg fun ours => elsewhere ours.1, asker.take_messageFrame]
  · rw [silent, if_neg fun question => nomatch question.2, teller.take_messageFrame]
    rfl
  · have bound : knows.cache =
        (asker.cache.observe teller.config.address teller.config.mac).2 := by
      rw [← unlearned]
      exact learnedBack
    rw [bound]
    exact Arp.lookup_admitted shows ⟨teller.config.address, teller.config.mac⟩ learns
  · have bound : told.cache = (teller.cache.observe asker.config.address asker.config.mac).2 :=
      learned
    rw [bound]
    exact Arp.lookup_admitted showsThere ⟨asker.config.address, asker.config.mac⟩ learnsBack
  · intro station member address mac held later
    have idles : station.Idles := by
      simp only [List.mem_cons, List.not_mem_nil, or_false] at member
      rcases member with rfl | rfl | rfl <;> assumption
    exact idles.pinned_after held later

end Interface

namespace Setup

/-- Whatever is not pinned has a slot to go to at first. -/
theorem admits_start (setup : Setup) {address : Ipv4Address}
    (other : address ≠ setup.config.hostAddress) : setup.start.cache.Admits address where
  unpinned := fun _ pinned => other ((Arp.pinned_mem_slots_iff setup.pinned []).mp pinned).1
  place := .inl ((Arp.free_mem_slots_iff setup.pinned []).mpr (by decide : 0 < 31))

theorem idles_start (setup : Setup) (running : setup.automatic = true) : setup.start.Idles :=
  ⟨setup, running, [], rfl, setup.carries_start.receiveReady⟩

/-- The default configuration at another address, on a running adapter. -/
def neighbour (last : UInt8) : Setup :=
  { Setup.default true with
    config := { Config.default with
      mac := ⟨0x02, 0, 0, 0, 0, last⟩
      address := ⟨10, 0, 2, last⟩ } }

end Setup

theorem Interface.resolution_binds_both_at_startup :
    let asker := (Setup.neighbour 16).start
    let teller := (Setup.neighbour 17).start
    let bystander := (Setup.neighbour 18).start
    let ask := Operation.askAddress ⟨10, 0, 2, 17⟩
    asker.Idles ∧ teller.Idles ∧ bystander.Idles ∧
      asker.cache.lookup ⟨10, 0, 2, 17⟩ = none ∧ teller.cache.lookup ⟨10, 0, 2, 16⟩ = none ∧
      ∃ question answer,
        ask.emitted asker = [question] ∧ (teller.receipt question).sent = [answer] ∧
        (bystander.receipt question).sent = [] ∧
        ((ask.next asker).receipt answer).sent = [] ∧
        ((ask.next asker).after (deliveries [answer])).cache.lookup ⟨10, 0, 2, 17⟩ =
          some ⟨0x02, 0, 0, 0, 0, 17⟩ ∧
        (teller.after (deliveries [question])).cache.lookup ⟨10, 0, 2, 16⟩ =
          some ⟨0x02, 0, 0, 0, 0, 16⟩ := by
  intro asker teller bystander ask
  have asking : asker.Idles := Setup.idles_start _ rfl
  have telling : teller.Idles := Setup.idles_start _ rfl
  have standing : bystander.Idles := Setup.idles_start _ rfl
  have learns : asker.cache.Admits teller.config.address := Setup.admits_start _ (by decide)
  have learnsBack : teller.cache.Admits asker.config.address := Setup.admits_start _ (by decide)
  obtain ⟨question, answer, -, emitted, -, told, -, overheard, silent, ⟨bound, -⟩,
    ⟨boundThere, -⟩, -⟩ :=
    resolution_binds_both asking telling standing (by decide) learns learnsBack
  refine ⟨asking, telling, standing, rfl, rfl, question, answer, emitted, ?_, ?_, ?_, bound,
    boundThere⟩
  · rw [told]
  · rw [overheard]
  · exact congrArg Receipt.sent silent

end NetStack
