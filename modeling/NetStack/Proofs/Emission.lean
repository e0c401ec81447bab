/-
Module: NetStack.Proofs.Emission
Purpose: What the frames look like that the stack sends of its own accord, how
  its packets are numbered, and when sending fails.
Main exports:
  Interface.Conforms, Interface.Operation.emitted, Interface.emissions,
  Interface.Sound.emits, Interface.numbered_emissions,
  Setup.emitted_frames_conform
-/
import Mathlib.Data.List.Induction
import NetStack.Proofs.Checksum
import NetStack.Proofs.Duty

namespace NetStack

open Interface (Operation)

/-!
On a running adapter whatever is to be sent is sent at once, and an operation sends
at most one frame.  Its bytes were put together by the stack, so that they can be
told from the operation; here they are read back, as a station on the link reads
them.  The numbers of the packets are those of a counter that starts at zero and
moves on with every packet, and with nothing else.
-/

namespace Interface

/-! ## Frames as they are read -/

/-- A packet that passes the checks of every receiver, from this address and to the
station that is bound to its destination. -/
structure ConformingPacket (config : Config) (cache : Arp.Cache) (outer : Ethernet.Header)
    (header : Ipv4.Header) (frame : Bytes) : Prop where
  decoded : Ipv4.Header.decode (frame.drop 14) = some header
  version : header.versionLength = 0x45
  timeToLive : header.timeToLive = 64
  source : header.source = config.address
  total : header.totalLength.toNat = frame.length - 14
  checksum : Checksum.checksum ((frame.drop 14).take 20) = 0
  accepted : ∀ other : Interface,
    (receivePacket (frame.drop 14)).outcome other =
      (dispatchPacket header (frame.drop 34)).outcome other
  hop : outer.destination = (cache.lookup header.destination).getD .zero

/-- A frame from this hardware address that carries a message, or a packet as every
receiver wants it. -/
inductive Conforms (config : Config) (cache : Arp.Cache) (frame : Bytes) : Prop where
  | message {outer : Ethernet.Header} (decoded : Ethernet.Header.decode frame = some outer)
      (source : outer.source = config.mac) (kind : outer.etherType = .arp)
      (length : frame.length = 42)
  | packet {outer : Ethernet.Header} {header : Ipv4.Header}
      (decoded : Ethernet.Header.decode frame = some outer)
      (source : outer.source = config.mac) (kind : outer.etherType = .ipv4)
      (short : frame.length ≤ 1514)
      (conforms : ConformingPacket config cache outer header frame)

/-- The number of the packet in a frame. -/
def identification? (frame : Bytes) : Option UInt16 := do
  let outer ← Ethernet.Header.decode frame
  if outer.etherType = .ipv4 then
    (Ipv4.Header.decode (frame.drop Ethernet.headerLength)).map Ipv4.Header.identification
  else
    none

section Frames

variable (interface : Interface)

theorem decode_messageFrame (destination : MacAddress) (message : Arp.Message) :
    Ethernet.Header.decode (interface.messageFrame destination message) =
      some { destination, source := interface.config.mac, etherType := .arp } :=
  Ethernet.Header.decode_encode _ rfl

theorem decode_packetFrame (protocol : UInt8) (destination : Ipv4Address) (payload : Bytes) :
    Ethernet.Header.decode (interface.packetFrame protocol destination payload) =
      some {
        destination := interface.nextHop destination
        source := interface.config.mac
        etherType := .ipv4 } :=
  Ethernet.Header.decode_encode _ rfl

/-- Behind its header a frame carries the packet. -/
theorem drop_packetFrame (protocol : UInt8) (destination : Ipv4Address) (payload : Bytes) :
    (interface.packetFrame protocol destination payload).drop Ethernet.headerLength =
      (interface.packetHeader protocol destination payload).encode ++ payload :=
  List.drop_left' (Ethernet.Header.length_encode _)

theorem identification?_messageFrame (destination : MacAddress) (message : Arp.Message) :
    identification? (interface.messageFrame destination message) = none := by
  rw [identification?, decode_messageFrame]
  rfl

theorem identification?_packetFrame (protocol : UInt8) (destination : Ipv4Address)
    (payload : Bytes) :
    identification? (interface.packetFrame protocol destination payload) =
      some interface.identification := by
  rw [identification?, decode_packetFrame, drop_packetFrame, Ipv4.Header.decode_encode]
  rfl

theorem conforms_messageFrame (cache : Arp.Cache) (destination : MacAddress)
    (message : Arp.Message) :
    Conforms interface.config cache (interface.messageFrame destination message) :=
  .message (interface.decode_messageFrame destination message) rfl rfl rfl

/-- A packet that fits into a frame is one that every receiver accepts. -/
theorem conforms_packetFrame (protocol : UInt8) (destination : Ipv4Address) {payload : Bytes}
    (fits : payload.length ≤ Ipv4.maxPayload) :
    Conforms interface.config interface.cache
      (interface.packetFrame protocol destination payload) := by
  let frame := interface.packetFrame protocol destination payload
  let header := interface.packetHeader protocol destination payload
  obtain ⟨total, admits⟩ := interface.admits_packetHeader protocol destination fits
  have length : frame.length = 14 + (20 + payload.length) :=
    interface.length_packetFrame protocol destination payload
  have sized : header.encode.length = 20 := Ipv4.Header.length_encode header
  have packet : frame.drop 14 = header.encode ++ payload :=
    interface.drop_packetFrame protocol destination payload
  have behind : frame.drop 34 = payload := by
    rw [show 34 = 14 + 20 from rfl, ← List.drop_drop, packet]
    exact List.drop_left' sized
  have decoded : Ipv4.Header.decode (header.encode ++ payload) = some header :=
    header.decode_encode payload
  have whole : (header.encode ++ payload).length = header.totalLength.toNat := by
    rw [total, List.length_append, Ipv4.Header.length_encode]
  have short : frame.length ≤ 1514 := by
    have bound : payload.length ≤ 1480 := fits
    omega
  have conforms : ConformingPacket interface.config interface.cache
      { destination := interface.nextHop destination
        source := interface.config.mac
        etherType := .ipv4 } header frame := {
    decoded := by rw [packet, decoded]
    version := rfl
    timeToLive := rfl
    source := rfl
    total := by
      rw [total, length, Nat.add_sub_cancel_left]
      rfl
    checksum := by
      rw [packet, List.take_left' sized]
      exact Ipv4.Header.checksum_encode_stamp _ _
    accepted := by
      intro other
      rw [packet, behind, receivePacket_of_admits decoded admits, ← whole, List.take_length,
        List.drop_left' (Ipv4.Header.length_encode header)]
    hop := rfl }
  exact .packet (interface.decode_packetFrame protocol destination payload) rfl rfl short conforms

end Frames

/-! ## What an operation sends -/

/-- A running adapter has sent whatever left the stack. -/
theorem outbox_running {nic : Nic} (wired : nic.Wired true) : nic.outbox = nic.sent := by
  obtain ⟨traffic, carries, running⟩ := wired
  rw [carries.outbox, carries.sent, Traffic.outbound, carries.prompt running, List.append_nil]

/-- The frames that an operation adds to those that were sent. -/
def Operation.emitted (operation : Operation) (interface : Interface) : List Bytes :=
  (operation.next interface).nic.sent.drop interface.nic.sent.length

/-- The frames that a run adds to those that were sent, whether they are taken off the
link meanwhile or not. -/
def emissions (interface : Interface) (operations : List Operation) : List Bytes :=
  (interface.turns operations).flatMap fun turn => turn.operation.emitted turn.before

/-- What may be sent between one state of an interface and a later one: nothing, one
message, or one packet under the next number. -/
inductive Emits (before after : Interface) : List Bytes → Prop where
  | nothing (kept : after.nic.sent <:+ before.nic.sent)
      (unnumbered : after.identification = before.identification) : Emits before after []
  | message (destination : MacAddress) (message : Arp.Message)
      (joined : after.nic.sent =
        before.nic.sent ++ [before.messageFrame destination message])
      (unnumbered : after.identification = before.identification) :
      Emits before after [before.messageFrame destination message]
  | packet (protocol : UInt8) (destination : Ipv4Address) {payload : Bytes}
      (fits : payload.length ≤ Ipv4.maxPayload)
      (joined : after.nic.sent =
        before.nic.sent ++ [before.packetFrame protocol destination payload])
      (known : after.cache = before.cache)
      (numbered : after.identification = before.identification + 1) :
      Emits before after [before.packetFrame protocol destination payload]

/-- What was sent is what is new among the frames sent. -/
theorem Emits.drop_sent {before after : Interface} {frames : List Bytes}
    (emits : Emits before after frames) :
    after.nic.sent.drop before.nic.sent.length = frames := by
  cases emits with
  | nothing kept unnumbered => exact List.drop_eq_nil_of_le kept.length_le
  | message destination message joined unnumbered => rw [joined, List.drop_left]
  | packet protocol destination fits joined known numbered => rw [joined, List.drop_left]

theorem Emits.length_le {before after : Interface} {frames : List Bytes}
    (emits : Emits before after frames) : frames.length ≤ 1 := by
  cases emits with
  | nothing kept unnumbered => exact Nat.zero_le 1
  | message destination message joined unnumbered => exact Nat.le_refl 1
  | packet protocol destination fits joined known numbered => exact Nat.le_refl 1

/-- What is sent joins the frames sent; nothing is sent while frames are taken off the
link. -/
theorem Emits.sent_cases {before after : Interface} {frames : List Bytes}
    (emits : Emits before after frames) :
    after.nic.sent = before.nic.sent ++ frames ∨
      frames = [] ∧ after.nic.sent <:+ before.nic.sent := by
  cases emits with
  | nothing kept unnumbered => exact .inr ⟨rfl, kept⟩
  | message destination message joined unnumbered => exact .inl joined
  | packet protocol destination fits joined known numbered => exact .inl joined

variable {interface : Interface} {traffic : Traffic} {handling : Handling}

/-- On a running adapter an answer joins the frames sent, whatever was taken off the
receive ring before. -/
theorem Handling.sent_answers {waiting : List Arrival} {nic : Nic} {frame : Bytes}
    {sent unsent : Memory} {excused : Bool} (carries : interface.nic.Carries traffic)
    (running : traffic.automatic = true) (onNic : nic.Carries { traffic with waiting }) :
    (Handling.answers frame sent unsent excused).outcome { interface with nic } =
        (.ok (), { interface.recalling sent with nic := ((Nic.transmit frame).outcome nic).2 }) ∧
      ((Nic.transmit frame).outcome nic).2.sent =
        interface.nic.sent ++ [frame.take packetSize] := by
  let polling : Interface := { interface with nic }
  have onPolling : polling.nic.Carries { traffic with waiting } := onNic
  have room : Traffic.hasRoom { traffic with waiting } = true := carries.prompt.hasRoom running
  refine ⟨Handling.outcome_answers onPolling room, ?_⟩
  obtain ⟨-, onSent⟩ := transmit_cases onNic frame
  rw [room, if_pos rfl] at onSent
  rw [onSent.sent, carries.sent, Traffic.enqueue]
  dsimp only
  rw [if_pos running, Traffic.flush, carries.prompt running]
  rfl

/-- What the stack puts together is sent. -/
theorem Issues.emits {waiting : List Arrival} {nic : Nic} (issues : interface.Issues handling)
    (carries : interface.nic.Carries traffic) (running : traffic.automatic = true)
    (onNic : nic.Carries { traffic with waiting }) :
    ∃ frames, Emits interface (handling.outcome { interface with nic }).2 frames := by
  have same : nic.sent = interface.nic.sent := onNic.sent.trans carries.sent.symm
  have kept : nic.sent <:+ interface.nic.sent := same ▸ List.suffix_rfl
  cases issues with
  | refuses cause => exact ⟨[], .nothing kept rfl⟩
  | settles unnumbered => exact ⟨[], .nothing kept unnumbered⟩
  | message destination message unnumbered =>
      obtain ⟨answered, joined⟩ := Handling.sent_answers carries running onNic
      rw [interface.take_messageFrame] at joined
      rw [answered]
      exact ⟨_, .message destination message joined unnumbered⟩
  | packet protocol destination fits known numbered spent =>
      obtain ⟨answered, joined⟩ := Handling.sent_answers carries running onNic
      rw [interface.take_packetFrame fits] at joined
      rw [answered]
      exact ⟨_, .packet protocol destination fits joined known numbered⟩

/-- On a running adapter an operation sends what it issues, and nothing else. -/
theorem Sound.emits (sound : interface.Sound true) {operation : Operation}
    (own : operation.dictates = false) :
    Emits interface (operation.next interface) (operation.emitted interface) := by
  suffices emits : ∃ frames, Emits interface (operation.next interface) frames by
    obtain ⟨frames, emits⟩ := emits
    rw [Operation.emitted, emits.drop_sent]
    exact emits
  obtain ⟨traffic, carries, running⟩ := sound.wired
  cases due : interface.duty operation with
  | none =>
      obtain ⟨nic, later, onLater, kept, done⟩ := outcome_no_duty carries due
      have becomes : operation.next interface = { interface with nic } := congrArg Prod.snd done
      have wiredAfter := (sound.next operation).wired
      rw [becomes] at wiredAfter ⊢
      refine ⟨[], .nothing ?_ rfl⟩
      rw [← outbox_running wiredAfter, ← outbox_running sound.wired, carries.outbox,
        onLater.outbox]
      exact kept
  | some handling =>
      obtain ⟨nic, waiting, onNic, done⟩ := outcome_duty carries due
      have becomes : operation.next interface = (handling.outcome { interface with nic }).2 :=
        congrArg Prod.snd done
      rw [becomes]
      rcases sound.issues_duty due own with issues | ⟨-, -, failure, rfl⟩
      · exact issues.emits carries running onNic
      · have same : nic.sent = interface.nic.sent := onNic.sent.trans carries.sent.symm
        have kept : nic.sent <:+ interface.nic.sent := same ▸ List.suffix_rfl
        exact ⟨[], .nothing kept rfl⟩

/-! ## What is sent, read back -/

/-- Whatever is sent conforms, by the bindings known before and by those known
after. -/
theorem Emits.conforms {before after : Interface} {frames : List Bytes}
    (emits : Emits before after frames) :
    ∀ frame ∈ frames,
      Conforms before.config before.cache frame ∧ Conforms before.config after.cache frame := by
  intro frame member
  cases emits with
  | nothing kept unnumbered => cases member
  | message destination message joined unnumbered =>
      obtain rfl := List.mem_singleton.mp member
      constructor
      · exact before.conforms_messageFrame before.cache destination message
      · exact before.conforms_messageFrame after.cache destination message
  | packet protocol destination fits joined known numbered =>
      obtain rfl := List.mem_singleton.mp member
      rw [known]
      constructor
      · exact before.conforms_packetFrame protocol destination fits
      · exact before.conforms_packetFrame protocol destination fits

/-- A packet has the number that the counter stood at, and moves the counter on. -/
theorem Emits.numbers {before after : Interface} {frames : List Bytes}
    (emits : Emits before after frames) :
    frames.filterMap identification? = [] ∧ after.identification = before.identification ∨
      frames.filterMap identification? = [before.identification] ∧
        after.identification = before.identification + 1 := by
  cases emits with
  | nothing kept unnumbered => exact .inl ⟨rfl, unnumbered⟩
  | message destination message joined unnumbered =>
      left
      rw [List.filterMap_cons_none (before.identification?_messageFrame destination message)]
      exact ⟨rfl, unnumbered⟩
  | packet protocol destination fits joined known numbered =>
      right
      rw [List.filterMap_cons_some (before.identification?_packetFrame protocol destination _)]
      exact ⟨rfl, numbered⟩

theorem emissions_append (interface : Interface) (earlier later : List Operation) :
    interface.emissions (earlier ++ later) =
      interface.emissions earlier ++ (interface.after earlier).emissions later := by
  rw [emissions, turns_append, List.flatMap_append]
  rfl

theorem emissions_concat (interface : Interface) (operations : List Operation)
    (operation : Operation) :
    interface.emissions (operations ++ [operation]) =
      interface.emissions operations ++ operation.emitted (interface.after operations) := by
  rw [emissions_append]
  exact congrArg _ (List.append_nil _)

/-! ## Sending that is asked for -/

/-- What has something to send: a datagram, a question for an address, and a segment
on a port that a channel serves. -/
inductive Operation.Sends (interface : Interface) : Operation → Prop where
  | datagram (data : Bytes) : Sends interface (.sendDatagram data)
  | question (target : Ipv4Address) : Sends interface (.askAddress target)
  | segment {port : UInt16} (bound : interface.pool.find? port ≠ none) (flags : Tcp.Flags)
      (payload : Bytes) : Sends interface (.sendSegment port flags payload)
  | acknowledgment {port : UInt16} (bound : interface.pool.find? port ≠ none)
      (flags : Tcp.Flags) : Sends interface (.sendAcknowledgment port flags)

theorem channelHandling_bound {port : UInt16} (bound : interface.pool.find? port ≠ none)
    (flags : Tcp.Flags) (payload : Bytes) :
    ∃ frame next, interface.channelHandling port flags payload =
      .answers frame next next false := by
  obtain ⟨index, found⟩ := Option.ne_none_iff_exists'.mp bound
  rw [channelHandling, found]
  exact ⟨_, _, rfl⟩

/-- It asks for a frame to be queued, and nothing hangs on whether it is. -/
theorem Operation.Sends.duty_eq {operation : Operation} (sends : operation.Sends interface) :
    operation.dictates = false ∧
      ∃ frame next, interface.duty operation = some (.answers frame next next false) := by
  refine ⟨by cases sends <;> rfl, ?_⟩
  cases sends with
  | datagram data =>
      rw [duty, handling, hostDatagram_eq]
      exact ⟨_, _, rfl⟩
  | question target => exact ⟨_, _, rfl⟩
  | segment bound flags payload =>
      obtain ⟨frame, next, handles⟩ := channelHandling_bound bound flags payload
      exact ⟨frame, next, congrArg some handles⟩
  | acknowledgment bound flags =>
      obtain ⟨frame, next, handles⟩ := channelHandling_bound bound (flags ||| Tcp.Flags.ack) []
      exact ⟨frame, next, congrArg some handles⟩

variable {automatic : Bool}

/-- It fails only if the slot at the tail is not free, and then for that. -/
theorem Operation.Sends.result_eq {operation : Operation} (sends : operation.Sends interface)
    (sound : interface.Sound automatic) :
    operation.result interface =
      if interface.nic.transmitReady then .ok () else .error (.refused .queueFull) := by
  obtain ⟨traffic, carries, -⟩ := sound.wired
  obtain ⟨-, frame, next, due⟩ := sends.duty_eq
  obtain ⟨nic, waiting, onNic, done⟩ := outcome_duty carries due
  obtain ⟨answer, -⟩ := transmit_cases onNic frame
  rw [Operation.result, done, Handling.outcome_answers_alike, outcome_onNic,
    carries.transmitReady]
  exact answer

/-- On a running adapter it sends one frame. -/
theorem Operation.Sends.emitted_eq {operation : Operation} (sends : operation.Sends interface)
    (sound : interface.Sound true) : ∃ frame, operation.emitted interface = [frame] := by
  obtain ⟨traffic, carries, running⟩ := sound.wired
  obtain ⟨own, frame, next, due⟩ := sends.duty_eq
  obtain ⟨nic, waiting, onNic, done⟩ := outcome_duty carries due
  obtain ⟨answered, joined⟩ := Handling.sent_answers carries running onNic
  refine ⟨frame.take packetSize, ?_⟩
  rw [Operation.emitted, Operation.next, done, answered]
  exact (congrArg (List.drop interface.nic.sent.length) joined).trans List.drop_left

end Interface

namespace Setup

/-- The packets of a run are numbered from zero on, and the counter says how many
there were. -/
theorem numbered_emissions (setup : Setup) (running : setup.automatic = true)
    (operations : List Operation)
    (own : ∀ operation ∈ operations, operation.dictates = false) :
    let numbers := (setup.start.emissions operations).filterMap Interface.identification?
    numbers = (List.range numbers.length).map UInt16.ofNat ∧
      (setup.start.after operations).identification = UInt16.ofNat numbers.length := by
  induction operations using List.reverseRecOn with
  | nil => exact ⟨rfl, rfl⟩
  | append_singleton operations operation inductiveHypothesis =>
      intro numbers
      have earlierOwn := fun other member => own other (List.mem_append_left [operation] member)
      obtain ⟨counted, counter⟩ := inductiveHypothesis earlierOwn
      have sound : (setup.start.after operations).Sound true :=
        running ▸ (setup.sound_after operations).1
      have emits := sound.emits (own operation (List.mem_append_right operations List.mem_cons_self))
      have grows : numbers =
          (setup.start.emissions operations).filterMap Interface.identification? ++
            (operation.emitted (setup.start.after operations)).filterMap
              Interface.identification? := by
        rw [← List.filterMap_append, ← Interface.emissions_concat]
      rw [Interface.after_concat]
      rcases emits.numbers with ⟨none, kept⟩ | ⟨one, moved⟩
      · rw [none, List.append_nil] at grows
        rw [grows, kept]
        exact ⟨counted, counter⟩
      · rw [one, counter] at grows
        rw [grows, moved, counter, List.length_append, List.length_singleton, List.range_succ,
          List.map_append]
        refine ⟨?_, (UInt16.ofNat_add _ 1).symm⟩
        rw [← counted]
        rfl

/-- Every frame that the stack sends of its own accord is one that it would accept.
Wherever a run has led on a running adapter, an operation that does not dictate the
bytes of a frame adds at most one to the frames sent: a message of 42 bytes, or a
packet of at most 1514 bytes in all, from the configured addresses, that passes the
checks of every receiver and goes to the hardware address that is bound to its
destination, if any is.  In a run of such operations the packets are numbered from
zero on, modulo 2^16.  And where something is asked to be sent, on a running adapter
or a stalled one, it is refused only for want of a free slot at the tail, and on a
running adapter never: there it is sent as one frame. -/
theorem emitted_frames_conform (setup : Setup) (operations : List Operation) :
    let reached := setup.start.after operations
    (setup.automatic = true →
      (∀ operation : Operation, operation.dictates = false →
        let after := operation.next reached
        let frames := operation.emitted reached
        frames.length ≤ 1 ∧
          (after.nic.sent = reached.nic.sent ++ frames ∨
            frames = [] ∧ after.nic.sent <:+ reached.nic.sent) ∧
          ∀ frame ∈ frames,
            Interface.Conforms setup.config reached.cache frame ∧
              Interface.Conforms setup.config after.cache frame) ∧
      ((∀ operation ∈ operations, operation.dictates = false) →
        ∀ (n : Nat) (number : UInt16),
          ((setup.start.emissions operations).filterMap Interface.identification?)[n]? =
              some number →
            number = UInt16.ofNat n) ∧
      reached.nic.transmitReady = true) ∧
    ∀ operation : Operation, operation.Sends reached →
      operation.result reached =
          (if reached.nic.transmitReady then .ok () else .error (.refused .queueFull)) ∧
        (setup.automatic = true → ∃ frame, operation.emitted reached = [frame]) := by
  intro reached
  obtain ⟨sound, configured⟩ := setup.sound_after operations
  refine ⟨fun running => ⟨?_, ?_, ?_⟩, ?_⟩
  · intro operation own after frames
    have emits : Interface.Emits reached after frames := (running ▸ sound).emits own
    refine ⟨emits.length_le, emits.sent_cases, ?_⟩
    rw [← configured]
    exact emits.conforms
  · intro own n number found
    obtain ⟨numbered, -⟩ := setup.numbered_emissions running operations own
    rw [numbered, List.getElem?_map] at found
    obtain ⟨place, counted, rfl⟩ := Option.map_eq_some_iff.mp found
    obtain ⟨inside, rfl⟩ := List.getElem?_eq_some_iff.mp counted
    rw [List.getElem_range]
  · obtain ⟨traffic, carries, automatic⟩ := sound.wired
    rw [carries.transmitReady]
    exact carries.prompt.hasRoom (automatic.trans running)
  · intro operation sends
    exact ⟨sends.result_eq sound, fun running => sends.emitted_eq (running ▸ sound)⟩

end Setup

end NetStack
