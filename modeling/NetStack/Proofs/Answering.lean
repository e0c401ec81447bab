/-
Module: NetStack.Proofs.Answering
Purpose: What one poll on a running adapter sends, to whom, and what it changes:
  at most one frame, and only to whom the frame in front gives cause.
Main exports:
  Interface.CarriesMessage, Interface.CarriesPacket, Interface.Answers,
  Interface.Deals.answers,
  Interface.Sound.performs, Parcel.sightings, Interface.Recalls,
  Interface.Deals.recalls, Interface.cache_remembered,
  Interface.Sound.pool_remembered, Setup.one_answer_at_most
-/
import NetStack.Proofs.Arp.FirstCome
import NetStack.Proofs.Atomicity
import NetStack.Proofs.Delivery

namespace NetStack

open Tcp (Segment Reaction)
open Interface (Operation)

/-!
Whatever is sent is sent for something that came in, and goes where that calls for
it.  What a frame carries decides who may be answered: the station that asked, the
station that has to be asked, the sender of a packet, the host, or the peer of a
channel.  It also decides what may be remembered: a binding if it is a message, a
channel if it is a segment, and a number whenever a packet goes out.
-/

/-! ## Frames as a station on the link reads them -/

namespace Interface

/-- A frame from our hardware address that carries a message to a station. -/
structure CarriesMessage (config : Config) (station : MacAddress) (message : Arp.Message)
    (frame : Bytes) : Prop where
  outer : Ethernet.Header.decode frame =
    some { destination := station, source := config.mac, etherType := .arp }
  inner : Arp.Message.decode (frame.drop Ethernet.headerLength) = some message

/-- A frame from our addresses that carries a packet to a station. -/
structure CarriesPacket (config : Config) (station : MacAddress) (protocol : UInt8)
    (destination : Ipv4Address) (payload frame : Bytes) : Prop where
  outer : Ethernet.Header.decode frame =
    some { destination := station, source := config.mac, etherType := .ipv4 }
  inner : ∃ header, Ipv4.Header.decode (frame.drop Ethernet.headerLength) = some header ∧
    header.protocol = protocol ∧ header.source = config.address ∧
    header.destination = destination
  behind : frame.drop (Ethernet.headerLength + Ipv4.headerLength) = payload

/-- Whether a frame says that it carries a packet. -/
def isPacket (frame : Bytes) : Bool :=
  (Ethernet.Header.decode frame).any fun header => header.etherType = .ipv4

section Frames

variable (interface : Interface)

theorem carriesMessage_messageFrame (station : MacAddress) {message : Arp.Message}
    (named : Arp.Operation.ofWord message.operation.toWord = message.operation) :
    CarriesMessage interface.config station message (interface.messageFrame station message) where
  outer := interface.decode_messageFrame station message
  inner := by
    have behind : (interface.messageFrame station message).drop Ethernet.headerLength =
        message.encode ++ [] := by
      rw [List.append_nil]
      exact List.drop_left' (Ethernet.Header.length_encode _)
    rw [behind]
    exact Arp.Message.decode_encode [] named

theorem carriesPacket_packetFrame (protocol : UInt8) (destination : Ipv4Address)
    (payload : Bytes) :
    CarriesPacket interface.config (interface.nextHop destination) protocol destination payload
      (interface.packetFrame protocol destination payload) where
  outer := interface.decode_packetFrame protocol destination payload
  inner := by
    rw [interface.drop_packetFrame protocol destination payload]
    exact ⟨_, Ipv4.Header.decode_encode _ payload, rfl, rfl, rfl⟩
  behind := by
    rw [← List.drop_drop, interface.drop_packetFrame protocol destination payload]
    exact List.drop_left' (Ipv4.Header.length_encode _)

theorem isPacket_messageFrame (station : MacAddress) (message : Arp.Message) :
    isPacket (interface.messageFrame station message) = false := by
  rw [isPacket, decode_messageFrame]
  rfl

theorem isPacket_packetFrame (protocol : UInt8) (destination : Ipv4Address) (payload : Bytes) :
    isPacket (interface.packetFrame protocol destination payload) = true := by
  rw [isPacket, decode_packetFrame]
  rfl

end Frames

/-! ## Who is answered -/

/-- The frames that may be sent for what came in. -/
inductive Answers (before after : Interface) (frame : Bytes) : Parcel → Prop where
  /-- Whoever asks for our address is told. -/
  | tells {question : Arp.Message} (asks : question.operation = .request)
      (ours : question.targetAddress = before.config.address)
      (carries : CarriesMessage before.config question.senderMac
        (question.reply before.config.mac before.config.address) frame) :
      Answers before after frame (.resolution question)
  /-- Whoever wants an echo, and has no known address, is asked for it. -/
  | asks {sender : Ipv4Address} {message : Bytes} (unknown : before.cache.lookup sender = none)
      (carries : CarriesMessage before.config .broadcast
        (.request before.config.mac before.config.address sender) frame) :
      Answers before after frame (.echo sender message)
  /-- Whoever has one is sent the echo. -/
  | echoes {sender : Ipv4Address} {message reply : Bytes} {station : MacAddress}
      (known : before.cache.lookup sender = some station)
      (made : Icmp.echoReply (message.take Ipv4.maxPayload) = .ok reply)
      (carries : CarriesPacket before.config station Ipv4.Protocol.icmp sender reply frame) :
      Answers before after frame (.echo sender message)
  /-- A datagram is passed on to the host. -/
  | forwards {payload datagram : Bytes}
      (made : hostDatagram before.config payload = .ok datagram)
      (carries : CarriesPacket before.config (before.nextHop before.config.hostAddress)
        Ipv4.Protocol.udp before.config.hostAddress datagram frame) :
      Answers before after frame (.datagram payload)
  /-- A segment is answered from its port, to the peer of the channel that serves
  it. -/
  | reacts {segment : Segment} {index : Fin Tcp.poolSize} {message : Tcp.Message}
      (serves : Tcp.Pool.localPort index = segment.header.destinationPort)
      (told : Tcp.Message.ofFrame? frame = some message)
      (source : message.source = ⟨before.config.address, segment.header.destinationPort⟩)
      (destination : message.destination = (after.pool.get index).guest) :
      Answers before after frame (.segment segment)

variable {interface : Interface} {parcel : Parcel} {handling : Handling} {frame : Bytes}

/-- A packet that is to be sent goes to the station of its destination. -/
theorem carriesPacket_of_packetHandling {protocol : UInt8} {destination : Ipv4Address}
    {made : Except Fault Bytes} (fits : ∀ payload, made = .ok payload →
      payload.length ≤ Ipv4.maxPayload)
    (sent : frame ∈ (interface.packetHandling protocol destination made).frames) :
    ∃ payload, made = .ok payload ∧
      CarriesPacket interface.config (interface.nextHop destination) protocol destination payload
        frame := by
  cases made with
  | error cause => cases sent
  | ok payload =>
      obtain rfl := List.mem_singleton.mp sent
      refine ⟨payload, rfl, ?_⟩
      rw [interface.take_packetFrame (fits payload rfl)]
      exact interface.carriesPacket_packetFrame protocol destination payload

/-- Whatever is sent goes to whom it concerns. -/
theorem Deals.answers {automatic : Bool} {after : Interface} (sound : interface.Sound automatic)
    (deals : interface.Deals parcel handling) (sent : frame ∈ handling.frames)
    (settled : after.pool = (handling.remembered interface.memory).pool) :
    interface.Answers after frame parcel := by
  cases deals with
  | drops cause => cases sent
  | passes => cases sent
  | tells asks =>
      obtain rfl := List.mem_singleton.mp sent
      rw [interface.take_messageFrame]
      exact .tells asks.2 asks.1 (interface.carriesMessage_messageFrame _ rfl)
  | hears other => cases sent
  | asks unknown =>
      obtain rfl := List.mem_singleton.mp sent
      rw [interface.take_messageFrame]
      exact .asks unknown (interface.carriesMessage_messageFrame _ rfl)
  | @echoes sender message station known =>
      have fits (reply : Bytes) (made : Icmp.echoReply (message.take Ipv4.maxPayload) = .ok reply) :
          reply.length ≤ Ipv4.maxPayload := by
        rw [Icmp.length_echoReply made]
        exact List.length_take_le _ _
      obtain ⟨reply, made, carries⟩ := carriesPacket_of_packetHandling fits sent
      rw [nextHop, known] at carries
      exact .echoes known made carries
  | forwards payload =>
      obtain ⟨datagram, made, carries⟩ :=
        carriesPacket_of_packetHandling (fun _ made => length_hostDatagram made) sent
      exact .forwards made carries
  | unserved closed => cases sent
  | rejects serves fails => cases sent
  | @reacts segment index reaction serves reacts =>
      rw [reactionHandling] at sent settled
      cases due : reaction.answer? with
      | none =>
          rw [due] at sent
          cases sent
      | some answer =>
          rw [due] at sent settled
          obtain rfl := List.mem_singleton.mp sent
          have how := (Tcp.Channel.react_eq_ok_iff (sound.channels index).onLoop).mp reacts
          have port := (Tcp.Pool.find?_eq_some_iff sound.bound).mp serves
          rw [interface.take_segmentFrame]
          refine .reacts port (interface.messageOfFrame?_segmentFrame _ _ _) ?_ ?_
          · rw [how.staged_host_eq, sound.bound index, port]
          · rw [settled, Handling.remembered, reacted, Tcp.Pool.get_set_same,
              Reaction.channelAfter_true, how.next_guest_eq]

/-! ## What an operation does on a running adapter -/

/-- On a running adapter there is one way to do what an operation asks for. -/
theorem Sound.performs (sound : interface.Sound true) (operation : Operation)
    {handling : Handling} (due : interface.duty operation = some handling) :
    operation.result interface = handling.verdict ∧
      operation.emitted interface = handling.frames ∧
      ∃ nic, nic.sent = interface.nic.sent ++ handling.frames ∧
        operation.next interface =
          { interface.recalling (handling.remembered interface.memory) with nic } := by
  obtain ⟨traffic, carries, running⟩ := sound.wired
  obtain ⟨nic, waiting, onNic, done⟩ := outcome_duty carries due
  obtain ⟨handled, joined, -⟩ := Handling.outcome_running carries running onNic handling
  rw [handled] at done
  have becomes : operation.next interface =
      { interface.recalling (handling.remembered interface.memory) with
        nic := handling.leaving nic } := congrArg Prod.snd done
  refine ⟨congrArg Prod.fst done, ?_, _, joined, becomes⟩
  rw [Operation.emitted, becomes, joined, List.drop_left]

/-- To poll is to deal with what the frame in front carries; when there is none, nothing
is done. -/
theorem pollHandling_eq (interface : Interface) (room : Nat) :
    ∃ parcel, interface.pollHandling room = interface.handling parcel ∧
      (parcel = .foreign ∨ interface.nic.front?.map (Parcel.ofFrame room) = some parcel) := by
  rw [pollHandling]
  cases interface.nic.front? with
  | none => exact ⟨.foreign, rfl, .inl rfl⟩
  | some frame => exact ⟨_, rfl, .inr rfl⟩

/-- A number is taken by a packet that is sent, and by nothing else. -/
theorem Emits.counts {before after : Interface} {frames : List Bytes}
    (emits : Emits before after frames) :
    after.identification =
      if frames.any isPacket then before.identification + 1 else before.identification := by
  cases emits with
  | nothing kept unnumbered => exact unnumbered
  | message destination message joined unnumbered =>
      simp [isPacket_messageFrame, unnumbered]
  | packet protocol destination fits joined known numbered =>
      simp [isPacket_packetFrame, numbered]

end Interface

/-! ## What is remembered -/

/-- What a parcel tells about who is where. -/
def Parcel.sightings : Parcel → List Arp.Binding
  | .resolution message => [⟨message.senderAddress, message.senderMac⟩]
  | _ => []

namespace Interface

variable {interface : Interface} {parcel : Parcel} {handling : Handling} {memory : Memory}

/-- What may be remembered once it is done, with or without room for an answer. -/
def Handling.memories : Handling → List Memory
  | .refuses _ => []
  | .settles next => [next]
  | .answers _ sent unsent _ => [sent, unsent]

/-- Either it is dropped, and nothing new is remembered, or it is done. -/
theorem Handling.remembered_cases (handling : Handling) (before : Memory) :
    (∃ failure, handling = .refuses failure) ∧ handling.remembered before = before ∨
      handling.verdict = .ok () ∧ handling.remembered before ∈ handling.memories := by
  cases handling with
  | refuses failure => exact .inl ⟨⟨failure, rfl⟩, rfl⟩
  | settles next => exact .inr ⟨rfl, List.mem_cons_self⟩
  | answers frame sent unsent excused => exact .inr ⟨rfl, List.mem_cons_self⟩

/-- A packet is remembered by its number. -/
theorem memories_packetHandling {protocol : UInt8} {destination : Ipv4Address}
    {made : Except Fault Bytes}
    (member : memory ∈ (interface.packetHandling protocol destination made).memories) :
    memory = interface.counted := by
  cases made with
  | error cause => cases member
  | ok payload => simpa [packetHandling, Handling.memories] using member

/-- A reaction is remembered in its channel. -/
theorem memories_reactionHandling {index : Fin Tcp.poolSize} {reaction : Reaction}
    (member : memory ∈ (interface.reactionHandling index reaction).memories) :
    ∃ channel identification, memory = interface.reacted index channel identification := by
  rw [reactionHandling] at member
  cases due : reaction.answer? with
  | none =>
      rw [due] at member
      exact ⟨_, _, List.mem_singleton.mp member⟩
  | some answer =>
      rw [due] at member
      rcases List.mem_pair.mp member with sent | unsent
      · exact ⟨_, _, sent⟩
      · exact ⟨_, _, unsent⟩

/-- What may be remembered of a parcel: who sent a message, what became of a channel, or
at most that a packet took its number. -/
inductive Recalls (interface : Interface) : Parcel → Memory → Prop where
  | number {parcel : Parcel} {memory : Memory} (silent : parcel.sightings = [])
      (cache : memory.cache = interface.cache) (pool : memory.pool = interface.pool) :
      Recalls interface parcel memory
  | sender (message : Arp.Message) :
      Recalls interface (.resolution message) (interface.learned message)
  | channel {segment : Segment} {index : Fin Tcp.poolSize}
      (serves : interface.pool.find? segment.header.destinationPort = some index)
      (channel : Tcp.Channel) (identification : UInt16) :
      Recalls interface (.segment segment) (interface.reacted index channel identification)

theorem Deals.recalls (deals : interface.Deals parcel handling)
    (member : memory ∈ handling.memories) : interface.Recalls parcel memory := by
  cases deals with
  | drops cause => cases member
  | passes =>
      obtain rfl := List.mem_singleton.mp member
      exact .number rfl rfl rfl
  | @tells question asks =>
      obtain rfl : memory = interface.learned question := by
        simpa [Handling.memories] using member
      exact .sender question
  | @hears message other =>
      obtain rfl := List.mem_singleton.mp member
      exact .sender message
  | asks unknown =>
      obtain rfl : memory = interface.memory := by
        simpa [askHandling, messageHandling, Handling.memories] using member
      exact .number rfl rfl rfl
  | echoes known =>
      obtain rfl := memories_packetHandling member
      exact .number rfl rfl rfl
  | forwards payload =>
      obtain rfl := memories_packetHandling member
      exact .number rfl rfl rfl
  | unserved closed => cases member
  | rejects serves fails => cases member
  | reacts serves reacts =>
      obtain ⟨channel, identification, rfl⟩ := memories_reactionHandling member
      exact .channel serves channel identification

namespace Recalls

/-- Bindings are learned from messages, and from nothing else. -/
theorem cache_eq (recalls : interface.Recalls parcel memory) :
    memory.cache = interface.cache.observeAll parcel.sightings := by
  cases recalls with
  | number silent cache pool =>
      rw [cache, silent]
      rfl
  | sender message => rfl
  | channel serves channel identification => rfl

/-- A channel changes for a segment to its port, and for nothing else. -/
theorem serves_of_change (recalls : interface.Recalls parcel memory) {index : Fin Tcp.poolSize}
    (changed : memory.pool.get index ≠ interface.pool.get index) :
    ∃ segment, parcel = .segment segment ∧
      interface.pool.find? segment.header.destinationPort = some index := by
  cases recalls with
  | number silent cache pool =>
      rw [pool] at changed
      exact absurd rfl changed
  | sender message => exact absurd rfl changed
  | @channel segment place serves channel identification =>
      have here : place = index := by
        by_contra elsewhere
        exact changed (Tcp.Pool.get_set_other _ elsewhere)
      exact ⟨segment, rfl, here ▸ serves⟩

end Recalls

/-- What is dropped tells nothing. -/
theorem Deals.sightings_eq_nil (deals : interface.Deals parcel handling) {failure : Failure}
    (refused : handling = .refuses failure) : parcel.sightings = [] := by
  cases deals with
  | tells asks => cases refused
  | hears other => cases refused
  | _ => rfl

theorem cache_remembered (interface : Interface) (parcel : Parcel) :
    ((interface.handling parcel).remembered interface.memory).cache =
      interface.cache.observeAll parcel.sightings := by
  have deals := interface.deals parcel
  rcases (interface.handling parcel).remembered_cases interface.memory with
    ⟨⟨failure, refused⟩, same⟩ | ⟨-, member⟩
  · rw [same, deals.sightings_eq_nil refused]
    rfl
  · exact (deals.recalls member).cache_eq

/-- A channel changes for a segment to its port that is accepted. -/
theorem Sound.pool_remembered {automatic : Bool} (sound : interface.Sound automatic)
    {index : Fin Tcp.poolSize}
    (changed : ((interface.handling parcel).remembered interface.memory).pool.get index ≠
      interface.pool.get index) :
    ∃ segment, parcel = .segment segment ∧
      Tcp.Pool.localPort index = segment.header.destinationPort ∧
      (interface.handling parcel).verdict = .ok () := by
  rcases (interface.handling parcel).remembered_cases interface.memory with
    ⟨-, same⟩ | ⟨accepted, member⟩
  · rw [same] at changed
    exact absurd rfl changed
  · obtain ⟨segment, carried, serves⟩ :=
      ((interface.deals parcel).recalls member).serves_of_change changed
    exact ⟨segment, carried, (Tcp.Pool.find?_eq_some_iff sound.bound).mp serves, accepted⟩

end Interface

namespace Setup

/-- One frame in, at most one frame out, and only to whom it concerns.  Wherever a run
has led on a running adapter, a poll adds at most one frame to those sent, and that
one answers what the frame in front carries: it tells whoever asks for our address,
asks for that of an unknown station that wants an echo, sends an echo to the sender of
the request, passes a datagram on to the host, or goes from the addressed port to the
peer of the channel that serves it.  Bindings change only for a message, which shows
where its sender is, and a channel only for a segment to its port that is accepted.
The number of the next packet moves on by one if the frame sent is a packet, and
otherwise stays. -/
theorem one_answer_at_most (setup : Setup) (running : setup.automatic = true)
    (operations : List Operation) :
    let reached := setup.start.after operations
    let after := Operation.poll.next reached
    let frames := Operation.poll.emitted reached
    let carried := reached.nic.front?.map (Parcel.ofFrame packetSize)
    frames.length ≤ 1 ∧ after.nic.sent = reached.nic.sent ++ frames ∧
      (∀ frame ∈ frames, ∃ parcel, carried = some parcel ∧ reached.Answers after frame parcel) ∧
      (after.cache ≠ reached.cache → ∃ message, carried = some (.resolution message) ∧
        after.cache = (reached.cache.observe message.senderAddress message.senderMac).2) ∧
      (∀ index, after.pool.get index ≠ reached.pool.get index →
        ∃ segment, carried = some (.segment segment) ∧
          Tcp.Pool.localPort index = segment.header.destinationPort ∧
          Operation.poll.result reached = .ok ()) ∧
      after.identification =
        if frames.any Interface.isPacket then reached.identification + 1
        else reached.identification := by
  intro reached after frames carried
  have sound : reached.Sound true := running ▸ (setup.sound_after operations).1
  have emits : reached.Emits after frames := sound.emits rfl
  obtain ⟨parcel, handles, shown⟩ := reached.pollHandling_eq packetSize
  obtain ⟨answered, framed, nic, joined, left⟩ := sound.performs .poll (congrArg some handles)
  have framed : frames = (reached.handling parcel).frames := framed
  have left : after = { reached.recalling
      ((reached.handling parcel).remembered reached.memory) with nic } := left
  refine ⟨emits.length_le, ?_, ?_, ?_, ?_, emits.counts⟩
  · rw [left, framed]
    exact joined
  · intro frame sent
    rw [framed] at sent
    have answers : reached.Answers after frame parcel := by
      refine (reached.deals parcel).answers sound sent ?_
      rw [left]
      rfl
    refine ⟨parcel, shown.resolve_left ?_, answers⟩
    rintro rfl
    cases answers
  · intro changed
    have learned : after.cache = reached.cache.observeAll parcel.sightings := by
      rw [left]
      exact reached.cache_remembered parcel
    rw [learned] at changed ⊢
    cases carries : parcel with
    | resolution message =>
        rw [carries] at shown
        exact ⟨message, shown.resolve_left nofun, rfl⟩
    | _ =>
        rw [carries] at changed
        exact absurd rfl changed
  · intro index changed
    rw [left] at changed
    obtain ⟨segment, rfl, serves, accepted⟩ := sound.pool_remembered changed
    exact ⟨segment, shown.resolve_left nofun, serves, answered.trans accepted⟩

/-- A frame that arrives on an interface just brought up is in front. -/
theorem front_injected (setup : Setup) {frame : Bytes} (nonempty : frame ≠ [])
    (fits : frame.length ≤ packetSize) :
    (setup.start.after [.inject frame]).nic.front? = some frame := by
  obtain ⟨nic, injected, arrives, onNic⟩ := Interface.inject_idle setup.carries_start rfl frame
  have arrived : setup.start.after [.inject frame] = { setup.start with nic } := arrives
  have kept : frame.take packetSize = frame := List.take_of_length_le fits
  rw [arrived, onNic.front?, Traffic.next?_arrive rfl (kept.symm ▸ nonempty), kept]

theorem one_answer_at_most_at_question :
    let setup := Setup.default true
    let reached := setup.start.after [.inject questionFrame]
    setup.automatic = true ∧ reached.nic.front? = some questionFrame ∧
      ∃ frame, Operation.poll.emitted reached = [frame] ∧
        reached.Answers (Operation.poll.next reached) frame (.resolution question) := by
  intro setup reached
  have front : reached.nic.front? = some questionFrame :=
    setup.front_injected (by decide) (by decide)
  obtain ⟨-, -, answers, -⟩ := one_answer_at_most setup rfl [.inject questionFrame]
  obtain ⟨sound, configured⟩ := setup.sound_after [.inject questionFrame]
  have handles : reached.pollHandling packetSize = reached.resolutionHandling question := by
    rw [Interface.pollHandling, front]
    rfl
  have asks : question.targetAddress = reached.config.address ∧ question.operation = .request := by
    rw [configured]
    exact ⟨rfl, rfl⟩
  obtain ⟨-, emitted, -⟩ := sound.performs .poll rfl
  rw [handles, Interface.resolutionHandling, if_pos asks] at emitted
  rw [emitted] at answers
  refine ⟨rfl, front, _, emitted, ?_⟩
  obtain ⟨parcel, carried, answered⟩ := answers _ List.mem_cons_self
  rw [front] at carried
  cases carried
  exact answered

end Setup

end NetStack
