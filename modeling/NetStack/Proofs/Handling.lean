/-
Module: NetStack.Proofs.Handling
Purpose: What the interface does about what a frame carries, that one poll does
  exactly that, and in which ways it may fail.
Main exports:
  Interface.Memory, Interface.Handling, Interface.Handling.outcome,
  Interface.handling, Interface.Deals, Interface.deals,
  Interface.hostDatagram_eq, Interface.outcome_dispatchFrame,
  Interface.outcome_pollInto_parcel, Interface.outcome_poll_parcel,
  Interface.Handling.outcome_error, Interface.Owes, Interface.owes_of_handling
-/
import NetStack.Proofs.Parcel
import NetStack.Proofs.Processing
import NetStack.Proofs.Run
import NetStack.Proofs.Udp

namespace NetStack

open Tcp (Segment Reaction)

/-!
The way up takes three decisions, and each needs less than the code at hand when
it takes it.  What a frame carries is a matter of its bytes alone.  What is to be
done about it is a matter of what the interface remembers, and not of its
adapter.  Only whether an answer finds room is a matter of the adapter, and it is
asked last.  A failure therefore comes either before anything was done, or from
the one attempt to queue an answer.
-/

/-! ## Checked steps -/

/-- To check a sequence of steps is to check one after the other. -/
theorem Action.check_bind {σ α β γ : Type} (first : Except Fault α) (next : α → Except Fault β)
    (onward : β → Action σ γ) :
    (Action.check first >>= fun value => Action.check (next value) >>= onward) =
      Action.check (first >>= next) >>= onward := by
  cases first with
  | ok value => rw [Action.check_ok, pure_bind]; rfl
  | error cause => rfl

/-- What a sequence of checked steps makes, its steps made. -/
theorem Except.of_bind_ok {ε α β : Type} {first : Except ε α} {next : α → Except ε β} {value : β}
    (made : (first >>= next) = .ok value) : ∃ middle, first = .ok middle ∧ next middle = .ok value := by
  cases first with
  | error failure => cases made
  | ok middle => exact ⟨middle, rfl, made⟩

/-- A reply is as long as the request. -/
theorem Icmp.length_echoReply {message reply : Bytes}
    (replies : Icmp.echoReply message = .ok reply) : reply.length = message.length := by
  obtain ⟨turned, first, replies⟩ := Except.of_bind_ok replies
  obtain ⟨cleared, second, third⟩ := Except.of_bind_ok replies
  rw [Bytes.length_of_splice third, Bytes.length_of_splice second, Bytes.length_of_splice first]

/-- What a channel is without an answer that is forgotten with its segment. -/
theorem Tcp.Reaction.channelAfter_undone {reaction : Reaction} {answer : Tcp.Answer}
    {restored : Tcp.Channel} (due : reaction.answer? = some answer)
    (loss : answer.loss = .undone restored) : reaction.channelAfter false = restored := by
  rw [channelAfter, due]
  dsimp only
  rw [loss]

/-- Whether a segment counts as taken although its answer is lost. -/
def Tcp.Loss.excused : Tcp.Loss → Bool
  | .ignored => true
  | .undone _ => false

namespace Interface

/-- What the interface remembers from one frame to the next, the adapter apart. -/
structure Memory where
  cache : Arp.Cache
  pool : Tcp.Pool
  identification : UInt16

def memory (interface : Interface) : Memory :=
  { cache := interface.cache, pool := interface.pool, identification := interface.identification }

/-- The interface with another memory. -/
def recalling (interface : Interface) (memory : Memory) : Interface :=
  { interface with
    cache := memory.cache
    pool := memory.pool
    identification := memory.identification }

@[simp] theorem nic_recalling (interface : Interface) (memory : Memory) :
    (interface.recalling memory).nic = interface.nic := rfl

@[simp] theorem config_recalling (interface : Interface) (memory : Memory) :
    (interface.recalling memory).config = interface.config := rfl

/-- What is to be done about a frame. -/
inductive Handling where
  /-- It is dropped. -/
  | refuses (failure : Failure)
  /-- It is taken note of. -/
  | settles (next : Memory)
  /-- It is answered with a frame.  What is remembered afterwards may depend on
  whether the answer could be queued, and the loss of the answer may be excused. -/
  | answers (frame : Bytes) (sent unsent : Memory) (excused : Bool)

/-- What comes of it. -/
def Handling.outcome (handling : Handling) (interface : Interface) :
    Except Failure Unit × Interface :=
  match handling with
  | .refuses failure => (.error failure, interface)
  | .settles next => (.ok (), interface.recalling next)
  | .answers frame sent unsent excused =>
      match (Nic.transmit frame).outcome interface.nic with
      | (.ok (), nic) => (.ok (), { interface.recalling sent with nic })
      | (.error failure, nic) =>
          (if excused then .ok () else .error failure, { interface.recalling unsent with nic })

/-! ## What is to be done -/

/-- One more packet has its number. -/
def counted (interface : Interface) : Memory :=
  { interface.memory with identification := interface.identification + 1 }

/-- The sender of a message was seen. -/
def learned (interface : Interface) (message : Arp.Message) : Memory :=
  { interface.memory with
    cache := (interface.cache.observe message.senderAddress message.senderMac).2 }

/-- A packet is sent, if there is one to send. -/
def packetHandling (interface : Interface) (protocol : UInt8) (destination : Ipv4Address) :
    Except Fault Bytes → Handling
  | .error cause => .refuses (.fault cause)
  | .ok payload =>
      .answers (interface.packetFrame protocol destination payload) interface.counted
        interface.counted false

/-- A message is sent, and nothing is remembered for it. -/
def messageHandling (interface : Interface) (destination : MacAddress) (message : Arp.Message) :
    Handling :=
  .answers (interface.messageFrame destination message) interface.memory interface.memory false

/-- Everybody is asked who holds an address. -/
def askHandling (interface : Interface) (target : Ipv4Address) : Handling :=
  interface.messageHandling .broadcast
    (.request interface.config.mac interface.config.address target)

/-- Whoever asked is told our binding. -/
def tellHandling (interface : Interface) (question : Arp.Message) : Handling :=
  let answer := question.reply interface.config.mac interface.config.address
  interface.messageHandling answer.targetMac answer

/-- The datagram that carries data to the host. -/
def hostDatagram (config : Config) (data : Bytes) : Except Fault Bytes := do
  let written ← Udp.writeDatagram config.udpSourcePort config.udpDestinationPort data
    (.zeros Ipv4.maxPayload)
  Bytes.slice written.buffer 0 written.length

def resolutionHandling (interface : Interface) (message : Arp.Message) : Handling :=
  let known := interface.learned message
  if message.targetAddress = interface.config.address ∧ message.operation = .request then
    let answer := message.reply interface.config.mac interface.config.address
    .answers (interface.messageFrame answer.targetMac answer) known known false
  else
    .settles known

def echoHandling (interface : Interface) (sender : Ipv4Address) (message : Bytes) : Handling :=
  match interface.cache.lookup sender with
  | none =>
      let question :=
        Arp.Message.request interface.config.mac interface.config.address sender
      .answers (interface.messageFrame .broadcast question) interface.memory interface.memory false
  | some _ =>
      interface.packetHandling Ipv4.Protocol.icmp sender
        (Icmp.echoReply (message.take Ipv4.maxPayload))

/-- The channel at `index` becomes another one, and a packet may have its
number. -/
def reacted (interface : Interface) (index : Fin Tcp.poolSize) (channel : Tcp.Channel)
    (identification : UInt16) : Memory :=
  { interface.memory with pool := interface.pool.set index channel, identification }

def reactionHandling (interface : Interface) (index : Fin Tcp.poolSize) (reaction : Reaction) :
    Handling :=
  match reaction.answer? with
  | none => .settles (interface.reacted index reaction.next interface.identification)
  | some answer =>
      .answers (interface.segmentFrame reaction.staged answer.flags answer.payload)
        (interface.reacted index (reaction.channelAfter true) (interface.identification + 1))
        (interface.reacted index (reaction.channelAfter false) (interface.identification + 1))
        answer.loss.excused

def segmentHandling (interface : Interface) (segment : Segment) : Handling :=
  match interface.pool.find? segment.header.destinationPort with
  | none => .refuses (.refused (.noChannel segment.header.destinationPort))
  | some index =>
      match (interface.pool.get index).react (interface.pool.fresh index) segment with
      | .error failure => .refuses failure
      | .ok reaction => interface.reactionHandling index reaction

/-- What is to be done about what a frame carries. -/
def handling (interface : Interface) : Parcel → Handling
  | .unreadable cause => .refuses (.refused cause)
  | .foreign => .settles interface.memory
  | .resolution message => interface.resolutionHandling message
  | .echo sender message => interface.echoHandling sender message
  | .datagram payload =>
      interface.packetHandling Ipv4.Protocol.udp interface.config.hostAddress
        (hostDatagram interface.config payload)
  | .segment segment => interface.segmentHandling segment

/-- It does not depend on the adapter. -/
theorem handling_nic (interface : Interface) (nic : Nic) (parcel : Parcel) :
    { interface with nic }.handling parcel = interface.handling parcel := by
  have packets (protocol : UInt8) (destination : Ipv4Address) (made : Except Fault Bytes) :
      { interface with nic }.packetHandling protocol destination made =
        interface.packetHandling protocol destination made := by
    cases made <;> rfl
  cases parcel with
  | unreadable cause => rfl
  | foreign => rfl
  | resolution message => rfl
  | echo sender message =>
      simp only [handling, echoHandling, packets]
      rfl
  | datagram payload => simp only [handling, packets]
  | segment segment =>
      simp only [handling, segmentHandling, reactionHandling]
      rfl

/-! ## The ways in which it is done -/

/-- The ways in which what a frame carries is dealt with. -/
inductive Deals (interface : Interface) : Parcel → Handling → Prop where
  /-- What fails a check is dropped. -/
  | drops (cause : StackError) : Deals interface (.unreadable cause) (.refuses (.refused cause))
  /-- What is for no service is passed over. -/
  | passes : Deals interface .foreign (.settles interface.memory)
  /-- Whoever asks for our address is told, and known from then on. -/
  | tells {question : Arp.Message}
      (asks : question.targetAddress = interface.config.address ∧ question.operation = .request) :
      Deals interface (.resolution question)
        (.answers
          (interface.messageFrame question.senderMac
            (question.reply interface.config.mac interface.config.address))
          (interface.learned question) (interface.learned question) false)
  /-- Whoever sends another message is known too. -/
  | hears {message : Arp.Message}
      (other : ¬(message.targetAddress = interface.config.address ∧
        message.operation = .request)) :
      Deals interface (.resolution message) (.settles (interface.learned message))
  /-- Whoever wants an echo, and has no known address, is asked for it. -/
  | asks {sender : Ipv4Address} {message : Bytes}
      (unknown : interface.cache.lookup sender = none) :
      Deals interface (.echo sender message) (interface.askHandling sender)
  /-- Whoever has one is sent the echo. -/
  | echoes {sender : Ipv4Address} {message : Bytes} {station : MacAddress}
      (known : interface.cache.lookup sender = some station) :
      Deals interface (.echo sender message)
        (interface.packetHandling Ipv4.Protocol.icmp sender
          (Icmp.echoReply (message.take Ipv4.maxPayload)))
  /-- A datagram is passed on to the host. -/
  | forwards (payload : Bytes) :
      Deals interface (.datagram payload)
        (interface.packetHandling Ipv4.Protocol.udp interface.config.hostAddress
          (hostDatagram interface.config payload))
  /-- A segment to a port without a channel is dropped. -/
  | unserved {segment : Segment}
      (closed : interface.pool.find? segment.header.destinationPort = none) :
      Deals interface (.segment segment)
        (.refuses (.refused (.noChannel segment.header.destinationPort)))
  /-- So is one that its channel rejects. -/
  | rejects {segment : Segment} {index : Fin Tcp.poolSize} {failure : Failure}
      (serves : interface.pool.find? segment.header.destinationPort = some index)
      (fails : (interface.pool.get index).react (interface.pool.fresh index) segment =
        .error failure) :
      Deals interface (.segment segment) (.refuses failure)
  /-- The channel reacts to any other. -/
  | reacts {segment : Segment} {index : Fin Tcp.poolSize} {reaction : Reaction}
      (serves : interface.pool.find? segment.header.destinationPort = some index)
      (reacts : (interface.pool.get index).react (interface.pool.fresh index) segment =
        .ok reaction) :
      Deals interface (.segment segment) (interface.reactionHandling index reaction)

theorem deals (interface : Interface) (parcel : Parcel) :
    interface.Deals parcel (interface.handling parcel) := by
  cases parcel with
  | unreadable cause => exact .drops cause
  | foreign => exact .passes
  | resolution message =>
      rw [handling, resolutionHandling]
      dsimp only
      split
      · next asks => exact .tells asks
      · next other => exact .hears other
  | echo sender message =>
      rw [handling, echoHandling]
      cases known : interface.cache.lookup sender with
      | none => exact .asks known
      | some station => exact .echoes known
  | datagram payload => exact .forwards payload
  | segment segment =>
      rw [handling, segmentHandling]
      cases serves : interface.pool.find? segment.header.destinationPort with
      | none => exact .unserved serves
      | some index =>
          dsimp only
          cases reacts : (interface.pool.get index).react (interface.pool.fresh index) segment with
          | error failure => exact .rejects serves reacts
          | ok reaction => exact .reacts serves reacts

/-! ## That much is done -/

/-- Where nothing hangs on whether the answer is queued, there is only that to be
done. -/
theorem Handling.outcome_answers_alike (frame : Bytes) (next : Memory) (interface : Interface) :
    (Handling.answers frame next next false).outcome interface =
      (onNic (Nic.transmit frame)).outcome (interface.recalling next) := by
  rw [outcome_onNic, Handling.outcome, nic_recalling]
  rcases (Nic.transmit frame).outcome interface.nic with ⟨answer, nic⟩
  cases answer <;> rfl

theorem outcome_sendPacket_handling (interface : Interface) {protocol : UInt8}
    {destination : Ipv4Address} {payload : Bytes} (fits : payload.length ≤ Ipv4.maxPayload) :
    (sendPacket protocol destination payload).outcome interface =
      (interface.packetHandling protocol destination (.ok payload)).outcome interface := by
  rw [outcome_sendPacket interface fits, packetHandling, Handling.outcome_answers_alike]
  rfl

/-- A message that is sent is one frame to be queued. -/
theorem outcome_message (interface : Interface) (destination : MacAddress)
    (message : Arp.Message) :
    (sendFrame (.outgoing destination .arp) message.encode).outcome interface =
      (interface.messageHandling destination message).outcome interface := by
  rw [outcome_sendFrame_message, messageHandling, Handling.outcome_answers_alike]
  rfl

theorem outcome_askAddress (interface : Interface) (target : Ipv4Address) :
    (askAddress target).outcome interface =
      (interface.askHandling target).outcome interface := by
  unfold askAddress
  rw [Action.outcome_emit_bind, Action.outcome_get_bind]
  exact interface.outcome_message _ _

theorem outcome_tellAddress (interface : Interface) (question : Arp.Message) :
    (tellAddress question).outcome interface =
      (interface.tellHandling question).outcome interface := by
  unfold tellAddress
  rw [Action.outcome_get_bind, Action.outcome_emit_bind]
  exact interface.outcome_message _ _

theorem outcome_resolve (interface : Interface) (data : Bytes) :
    (resolve data).outcome interface =
      (interface.handling (.ofResolution data)).outcome interface := by
  unfold resolve Parcel.ofResolution
  rw [Action.outcome_emit_bind]
  cases Arp.Message.decode data with
  | none => rfl
  | some message =>
      rw [Action.demand_some, pure_bind]
      dsimp only
      split
      · rfl
      · split
        · rfl
        · have seen : (learn message.senderAddress message.senderMac).outcome interface =
              (.ok (), interface.recalling (interface.learned message)) := rfl
          rw [Action.outcome_bind_of_ok seen, Action.outcome_get_bind, handling,
            resolutionHandling, config_recalling]
          dsimp only
          by_cases asks : message.targetAddress = interface.config.address ∧
              message.operation = .request
          · rw [if_pos asks, if_pos asks]
            exact outcome_tellAddress _ message
          · rw [if_neg asks, if_neg asks]
            rfl

theorem outcome_receiveEcho (interface : Interface) (sender : Ipv4Address) (message : Bytes) :
    (receiveEcho sender message).outcome interface =
      (interface.handling (.ofEcho sender message)).outcome interface := by
  unfold receiveEcho Parcel.ofEcho
  rw [Action.outcome_emit_bind]
  cases Icmp.Header.decode message with
  | none => rfl
  | some header =>
      rw [Action.demand_some, pure_bind]
      dsimp only
      split
      · rfl
      · split
        · rfl
        · rw [Action.outcome_get_bind, handling, echoHandling]
          cases interface.cache.lookup sender with
          | none =>
              dsimp only
              rw [Action.outcome_emit_bind]
              exact interface.outcome_askAddress sender
          | some mac =>
              dsimp only
              cases replies : Icmp.echoReply (message.take Ipv4.maxPayload) with
              | error cause => rfl
              | ok reply =>
                  have fits : reply.length ≤ Ipv4.maxPayload := by
                    rw [Icmp.length_echoReply replies]
                    exact List.length_take_le _ _
                  rw [Action.check_ok, pure_bind, Action.outcome_emit_bind,
                    outcome_sendPacket_handling interface fits]

/-- The datagram to the host carries as much of the data as a packet has room for. -/
theorem hostDatagram_eq (config : Config) (data : Bytes) :
    hostDatagram config data =
      .ok (Udp.datagram config.udpSourcePort config.udpDestinationPort
        (data.take Udp.maxPayload)) := by
  let datagram := Udp.datagram config.udpSourcePort config.udpDestinationPort
    (data.take Udp.maxPayload)
  have room : Udp.headerLength ≤ (Bytes.zeros Ipv4.maxPayload).length := by
    rw [Bytes.length_zeros]
    decide
  have limit : min Udp.maxPayload ((Bytes.zeros Ipv4.maxPayload).length - Udp.headerLength) =
      Udp.maxPayload := by
    rw [Bytes.length_zeros]
    rfl
  have written := Udp.writeDatagram_eq config.udpSourcePort config.udpDestinationPort data room
  rw [limit] at written
  have inside : datagram.length ≤
      (datagram ++ (Bytes.zeros Ipv4.maxPayload).drop datagram.length).length := by
    rw [List.length_append]
    exact Nat.le_add_right _ _
  have cut := Bytes.slice_eq_ok (Nat.zero_le datagram.length) inside
  rw [List.take_left] at cut
  unfold hostDatagram
  rw [written]
  exact cut

theorem length_hostDatagram {config : Config} {data datagram : Bytes}
    (made : hostDatagram config data = .ok datagram) : datagram.length ≤ Ipv4.maxPayload := by
  rw [hostDatagram_eq] at made
  cases made
  rw [Udp.length_datagram]
  exact Nat.add_le_add_left (List.length_take_le _ _) Udp.headerLength

theorem outcome_sendDatagram (interface : Interface) (data : Bytes) :
    (sendDatagram data).outcome interface =
      (interface.handling (.datagram data)).outcome interface := by
  unfold sendDatagram
  rw [Action.outcome_emit_bind, Action.outcome_get_bind, handling]
  dsimp only
  have whole := Action.check_bind
    (Udp.writeDatagram interface.config.udpSourcePort interface.config.udpDestinationPort data
      (.zeros Ipv4.maxPayload))
    (fun written => Bytes.slice written.buffer 0 written.length)
    (sendPacket Ipv4.Protocol.udp interface.config.hostAddress)
  rw [whole]
  change (Action.check (hostDatagram interface.config data) >>=
    sendPacket Ipv4.Protocol.udp interface.config.hostAddress).outcome interface = _
  cases made : hostDatagram interface.config data with
  | error cause => rfl
  | ok payload =>
      rw [Action.check_ok, pure_bind]
      exact outcome_sendPacket_handling interface (length_hostDatagram made)

theorem outcome_receiveDatagram (interface : Interface) (datagram : Bytes) :
    (receiveDatagram datagram).outcome interface =
      (interface.handling (.ofDatagram datagram)).outcome interface := by
  unfold receiveDatagram Parcel.ofDatagram
  rw [Action.outcome_emit_bind]
  cases Udp.Header.decode datagram with
  | none => rfl
  | some header =>
      rw [Action.demand_some, pure_bind, Action.outcome_emit_bind]
      exact interface.outcome_sendDatagram (header.payload datagram)

/-- To carry a reaction out is to settle its channel, or to answer. -/
theorem outcome_conduct_handling {interface : Interface} {traffic : Traffic}
    (carries : interface.nic.Carries traffic) (index : Fin Tcp.poolSize) (port : UInt16)
    (reaction : Reaction) :
    (conduct index port reaction).outcome interface =
      (interface.reactionHandling index reaction).outcome interface := by
  rw [outcome_conduct carries]
  unfold conducted reactionHandling Reaction.verdict
  cases due : reaction.answer? with
  | none =>
      have after (room : Bool) : reaction.channelAfter room = reaction.next := by
        rw [Reaction.channelAfter, due]
      rw [after]
      rfl
  | some answer =>
      obtain ⟨answered, -⟩ := transmit_cases carries
        (interface.segmentFrame reaction.staged answer.flags answer.payload)
      dsimp only [Handling.outcome]
      rcases transmitted : (Nic.transmit (interface.segmentFrame reaction.staged answer.flags
        answer.payload)).outcome interface.nic with ⟨result, nic⟩
      rw [transmitted] at answered
      dsimp only at answered ⊢
      rw [answered]
      cases traffic.hasRoom with
      | true => rfl
      | false => cases answer.loss <;> rfl

theorem outcome_processSegment_handling {interface : Interface} {traffic : Traffic}
    (carries : interface.nic.Carries traffic) (segment : Segment) :
    (processSegment segment).outcome interface =
      (interface.handling (.segment segment)).outcome interface := by
  rw [outcome_processSegment, handling, segmentHandling]
  cases interface.pool.find? segment.header.destinationPort with
  | none => rfl
  | some index =>
      dsimp only
      rw [outcome_stepChannel]
      cases (interface.pool.get index).react (interface.pool.fresh index) segment with
      | error failure => rfl
      | ok reaction => exact outcome_conduct_handling carries index _ reaction

theorem outcome_receiveSegment {interface : Interface} {traffic : Traffic}
    (carries : interface.nic.Carries traffic) (sender : Ipv4Address) (data : Bytes) :
    (receiveSegment sender data).outcome interface =
      (interface.handling (.ofSegment sender data)).outcome interface := by
  rw [Parcel.ofSegment]
  cases carried : Segment.ofPayload? sender data with
  | some segment =>
      rw [receiveSegment_of_some carried]
      exact outcome_processSegment_handling carries segment
  | none =>
      unfold Segment.ofPayload? at carried
      unfold receiveSegment
      cases decoded : Tcp.Header.decode data with
      | none => rfl
      | some header =>
          rw [decoded] at carried
          dsimp only at carried ⊢
          split at carried
          · next bad =>
            rw [if_pos bad]
            rfl
          · cases carried

theorem outcome_receivePacket {interface : Interface} {traffic : Traffic}
    (carries : interface.nic.Carries traffic) (packet : Bytes) :
    (receivePacket packet).outcome interface =
      (interface.handling (.ofPacket packet)).outcome interface := by
  unfold receivePacket Parcel.ofPacket
  rw [Action.outcome_emit_bind]
  cases Ipv4.Header.decode packet with
  | none => rfl
  | some header =>
      rw [Action.demand_some, pure_bind]
      dsimp only
      split
      · rfl
      · split
        · rfl
        · split
          · rfl
          · next length =>
            rw [Bytes.slice_eq_ok (by omega) (by omega), Action.check_ok, pure_bind]
            unfold dispatchPacket Parcel.ofProtocol
            split
            · exact outcome_receiveSegment carries _ _
            · split
              · exact outcome_receiveDatagram interface _
              · split
                · exact outcome_receiveEcho interface _ _
                · rfl

/-- What is done about the payload of a frame is what is to be done about what it
carries. -/
theorem outcome_dispatchFrame {interface : Interface} {traffic : Traffic}
    (carries : interface.nic.Carries traffic) (etherType : EtherType) (payload : Bytes) :
    (dispatchFrame etherType payload).outcome interface =
      (interface.handling (.ofPayload etherType payload)).outcome interface := by
  cases etherType with
  | ipv4 => exact outcome_receivePacket carries payload
  | arp => exact outcome_resolve interface payload
  | other value => rfl

/-- To poll is to take the frame in front off the adapter, and to do what is to be
done about what it carries. -/
theorem outcome_pollInto_parcel {interface : Interface} {traffic : Traffic} {frame : Bytes}
    (carries : interface.nic.Carries traffic) (next : traffic.next? = some frame) (out : Bytes) :
    (pollInto out).outcome interface =
      let done := (interface.handling (.ofFrame out.length frame)).outcome
        { interface with nic := interface.taken }
      (done.1.map fun () => frame.length, done.2) := by
  rw [outcome_pollInto carries next, Parcel.ofFrame]
  cases Ethernet.Header.decode frame with
  | none => rfl
  | some header =>
      dsimp only
      have onTaken : Nic.Carries { interface with nic := interface.taken }.nic traffic.advance :=
        carries_taken carries next
      rw [outcome_dispatchFrame onTaken, handling_nic]

theorem outcome_poll_parcel {interface : Interface} {traffic : Traffic} {frame : Bytes}
    (carries : interface.nic.Carries traffic) (next : traffic.next? = some frame) :
    (perform .poll).outcome interface =
      (interface.handling (.ofFrame packetSize frame)).outcome
        { interface with nic := interface.taken } := by
  rw [perform, poll_eq_pollInto, Action.outcome_map,
    outcome_pollInto_parcel carries next (.zeros packetSize), Bytes.length_zeros]
  rcases (interface.handling (.ofFrame packetSize frame)).outcome
    { interface with nic := interface.taken } with ⟨answer, last⟩
  cases answer <;> rfl

theorem outcome_poll_idle {interface : Interface} {traffic : Traffic}
    (carries : interface.nic.Carries traffic) (idle : traffic.next? = none) :
    (perform .poll).outcome interface = (.ok (), { interface with nic := interface.taken }) := by
  rw [perform, poll_eq_pollInto, Action.outcome_map, outcome_pollInto_idle carries idle]
  rfl

/-! ## How it may fail -/

/-- A frame is dropped before anything is done about it, or because its answer
finds no room. -/
theorem Handling.outcome_error {interface : Interface} {traffic : Traffic} {handling : Handling}
    {failure : Failure} (carries : interface.nic.Carries traffic)
    (failed : (handling.outcome interface).1 = .error failure) :
    handling = .refuses failure ∧ (handling.outcome interface).2 = interface ∨
      failure = .refused .queueFull ∧ traffic.hasRoom = false ∧
        ∃ frame sent unsent, handling = .answers frame sent unsent false ∧
          (handling.outcome interface).2 = interface.recalling unsent := by
  cases handling with
  | refuses cause =>
      left
      cases failed
      exact ⟨rfl, rfl⟩
  | settles next => cases failed
  | answers frame sent unsent excused =>
      right
      rw [Handling.outcome] at failed ⊢
      rcases carries.pending_cases with room | full
      · obtain ⟨nic, queued, -⟩ := carries.transmit frame room
        rw [queued] at failed
        cases failed
      · rw [carries.transmit_full frame full] at failed ⊢
        cases excused with
        | true => cases failed
        | false =>
            cases failed
            exact ⟨rfl, decide_eq_false (by omega), frame, sent, unsent, rfl, rfl⟩

/-- With room, whatever is to be answered is answered. -/
theorem Handling.outcome_answers {interface : Interface} {traffic : Traffic} {frame : Bytes}
    {sent unsent : Memory} {excused : Bool} (carries : interface.nic.Carries traffic)
    (room : traffic.hasRoom = true) :
    ((Handling.answers frame sent unsent excused).outcome interface) =
      (.ok (), { interface.recalling sent with
        nic := ((Nic.transmit frame).outcome interface.nic).2 }) := by
  obtain ⟨answered, -⟩ := transmit_cases carries frame
  rw [room, if_pos rfl] at answered
  rw [Handling.outcome]
  rcases transmitted : (Nic.transmit frame).outcome interface.nic with ⟨answer, nic⟩
  rw [transmitted] at answered
  cases answered
  rfl

/-! ## What is owed -/

/-- An answer that is owed for what a frame carries, so that its loss is not
excused, and what is remembered with it and without it. -/
inductive Owes (interface : Interface) : Parcel → Bytes → Memory → Memory → Prop where
  /-- Whoever asks for our address is told, and known from then on. -/
  | tells {message : Arp.Message}
      (asks : message.targetAddress = interface.config.address ∧
        message.operation = .request) :
      Owes interface (.resolution message)
        (interface.messageFrame message.senderMac
          (message.reply interface.config.mac interface.config.address))
        (interface.learned message) (interface.learned message)
  /-- Whoever wants an echo, and has no known address, is asked for it. -/
  | asks {sender : Ipv4Address} {message : Bytes}
      (unknown : interface.cache.lookup sender = none) :
      Owes interface (.echo sender message)
        (interface.messageFrame .broadcast
          (.request interface.config.mac interface.config.address sender))
        interface.memory interface.memory
  /-- Whoever has one is sent the echo. -/
  | replies {sender : Ipv4Address} {message reply : Bytes} {mac : MacAddress}
      (known : interface.cache.lookup sender = some mac)
      (made : Icmp.echoReply (message.take Ipv4.maxPayload) = .ok reply) :
      Owes interface (.echo sender message)
        (interface.packetFrame Ipv4.Protocol.icmp sender reply)
        interface.counted interface.counted
  /-- A datagram is passed on to the host. -/
  | forwards {payload datagram : Bytes}
      (made : hostDatagram interface.config payload = .ok datagram) :
      Owes interface (.datagram payload)
        (interface.packetFrame Ipv4.Protocol.udp interface.config.hostAddress datagram)
        interface.counted interface.counted
  /-- A segment is answered on its channel, or else forgotten. -/
  | reacts {segment : Segment} {index : Fin Tcp.poolSize} {reaction : Reaction}
      {answer : Tcp.Answer} {restored : Tcp.Channel}
      (serves : interface.pool.find? segment.header.destinationPort = some index)
      (reacts : (interface.pool.get index).react (interface.pool.fresh index) segment =
        .ok reaction)
      (due : reaction.answer? = some answer) (loss : answer.loss = .undone restored) :
      Owes interface (.segment segment)
        (interface.segmentFrame reaction.staged answer.flags answer.payload)
        (interface.reacted index reaction.next (interface.identification + 1))
        (interface.reacted index restored (interface.identification + 1))

variable {interface : Interface} {parcel : Parcel} {frame : Bytes} {sent unsent : Memory}

theorem Owes.handling_eq (owes : interface.Owes parcel frame sent unsent) :
    interface.handling parcel = .answers frame sent unsent false := by
  cases owes with
  | tells asks => exact if_pos asks
  | asks unknown => rw [handling, echoHandling, unknown]
  | replies known made => rw [handling, echoHandling, known, made, packetHandling]
  | forwards made => rw [handling, made, packetHandling]
  | @reacts segment index reaction answer restored serves reacts due loss =>
      rw [handling, segmentHandling, serves]
      dsimp only
      rw [reacts]
      dsimp only [reactionHandling]
      rw [due]
      dsimp only
      rw [loss, Tcp.Loss.excused, Reaction.channelAfter_undone due loss,
        Reaction.channelAfter_true]

/-- A packet takes a number, whether it can be queued or not. -/
theorem packetHandling_eq_answers {protocol : UInt8} {destination : Ipv4Address}
    {made : Except Fault Bytes}
    (owed : interface.packetHandling protocol destination made =
      .answers frame sent unsent false) :
    ∃ payload, made = .ok payload ∧ frame = interface.packetFrame protocol destination payload ∧
      sent = interface.counted ∧ unsent = interface.counted := by
  cases made with
  | error cause => cases owed
  | ok payload =>
      cases owed
      exact ⟨payload, rfl, rfl, rfl, rfl⟩

/-- An answer whose loss is not excused is one whose segment is forgotten with
it. -/
theorem owes_reaction {segment : Segment} {index : Fin Tcp.poolSize} {reaction : Reaction}
    (serves : interface.pool.find? segment.header.destinationPort = some index)
    (reacts : (interface.pool.get index).react (interface.pool.fresh index) segment =
      .ok reaction)
    (owed : interface.reactionHandling index reaction = .answers frame sent unsent false) :
    interface.Owes (.segment segment) frame sent unsent := by
  rw [reactionHandling] at owed
  cases due : reaction.answer? with
  | none =>
      rw [due] at owed
      cases owed
  | some answer =>
      rw [due] at owed
      dsimp only at owed
      cases loss : answer.loss with
      | ignored =>
          rw [loss] at owed
          cases owed
      | undone restored =>
          rw [loss, Tcp.Loss.excused, Reaction.channelAfter_undone due loss,
            Reaction.channelAfter_true] at owed
          cases owed
          exact .reacts serves reacts due loss

theorem Deals.owes {handling : Handling} (deals : interface.Deals parcel handling)
    (owed : handling = .answers frame sent unsent false) :
    interface.Owes parcel frame sent unsent := by
  cases deals with
  | drops cause => cases owed
  | passes => cases owed
  | tells asks =>
      cases owed
      exact .tells asks
  | hears other => cases owed
  | asks unknown =>
      cases owed
      exact .asks unknown
  | echoes known =>
      obtain ⟨reply, made, rfl, rfl, rfl⟩ := packetHandling_eq_answers owed
      exact .replies known made
  | forwards payload =>
      obtain ⟨datagram, made, rfl, rfl, rfl⟩ := packetHandling_eq_answers owed
      exact .forwards made
  | unserved closed => cases owed
  | rejects serves fails => cases owed
  | reacts serves reacts => exact owes_reaction serves reacts owed

/-- Nothing else is owed. -/
theorem owes_of_handling (owed : interface.handling parcel = .answers frame sent unsent false) :
    interface.Owes parcel frame sent unsent :=
  (interface.deals parcel).owes owed

end Interface

end NetStack
