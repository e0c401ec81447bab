/-
Module: NetStack.Proofs.Retry
Purpose: What becomes of a frame whose answer found the transmit ring full, when
  it arrives again once the ring is empty.
Main exports:
  Tcp.Channel.Reacts.react_restored, Ipv4.Restamped, Ipv4.Renumbered,
  Interface.packetFrame_stamped, Interface.Redone, Interface.Owes.again,
  Interface.outcome_delivery, Setup.retry_leaves_no_trace
-/
import NetStack.Proofs.Arp.Cache
import NetStack.Proofs.Atomicity
import NetStack.Proofs.Delivery

namespace NetStack

open Tcp (Segment Reaction)
open Interface (Operation)

/-!
What the first try leaves behind does not get into the way of the second.  A
station that was seen is seen again, a number that is spent is not missed, and a
channel that took its bytes back reacts as it did before: it even puts them into
the same cells.  So the second try comes to what the first one would have come
to, had there been room, but for the number of its packet.
-/

/-! ## Channels -/

/-- To write the same bytes to the same place twice is to write them once. -/
theorem Bytes.splice_splice {buffer source written : Bytes} {start : Nat}
    (spliced : Bytes.splice buffer start source = .ok written) :
    Bytes.splice written start source = .ok written := by
  have sized := Bytes.length_of_splice spliced
  unfold Bytes.splice at spliced
  split at spliced
  · next fits =>
    have inside : (buffer.take start).length = start := by
      rw [List.length_take]
      omega
    have filled : (buffer.take start ++ source).length = start + source.length := by
      rw [List.length_append, inside]
    have made := Except.ok.inj spliced
    have front : written.take start = buffer.take start := by
      rw [← made, List.append_assoc, List.take_left' inside]
    have back : written.drop (start + source.length) = buffer.drop (start + source.length) := by
      rw [← made, List.drop_left' filled]
    rw [Bytes.splice_eq_ok (by omega), front, back]
    exact spliced
  · cases spliced

namespace Tcp

/-- Bytes that were taken back can be added again, and fall into the same
cells. -/
theorem ReceiveWindow.append_truncate {window longer : ReceiveWindow} {payload : Bytes}
    (appended : window.append payload = .ok longer) :
    (longer.truncate window.fill).append payload = .ok longer := by
  unfold append at appended
  split at appended
  · cases appended
  · next room =>
    cases written : Bytes.splice window.cells window.fill payload with
    | error cause =>
        rw [written] at appended
        cases appended
    | ok cells =>
        rw [written] at appended
        cases appended
        have back : min (window.fill + payload.length) window.fill = window.fill := by omega
        unfold append truncate
        dsimp only
        rw [back, if_neg room, Bytes.splice_splice written]

namespace Channel

variable {channel fresh : Channel} {segment : Segment} {reaction : Reaction}

/-- A channel that took the bytes of a segment back reacts to it as before. -/
theorem Reacts.react_restored {answer : Answer} {restored : Channel}
    (how : Reacts channel segment reaction) (sound : channel.Sound)
    (due : reaction.answer? = some answer) (loss : answer.loss = .undone restored) :
    restored.react fresh segment = .ok reaction := by
  obtain ⟨window, appended, rfl⟩ := how.of_undone due loss
  obtain ⟨room, -, filled, -, -⟩ := ReceiveWindow.append_eq_ok sound.sized appended
  have again := ReceiveWindow.append_truncate appended
  have back : (window.truncate channel.window.fill).fill = channel.window.fill := by
    show min window.fill channel.window.fill = channel.window.fill
    omega
  let restored : Channel := { channel with window := window.truncate channel.window.fill }
  have same : restored.window.append segment.payload = .ok window := again
  cases how with
  | takes waiting expected taken unpushed loaded =>
      rw [appended] at taken
      cases taken
      have repeated : Reacts restored segment _ :=
        .takes waiting expected same unpushed loaded
      rw [show restored.window.fill = channel.window.fill from back] at repeated
      exact repeated.react_eq
  | answers waiting expected taken pushed =>
      rw [appended] at taken
      cases taken
      have repeated : Reacts restored segment _ :=
        .answers waiting expected same pushed
      rw [answerRequest, show restored.window.fill = channel.window.fill from back] at repeated
      exact repeated.react_eq
  | notes waiting expected taken unpushed bare => cases due
  | awaits waiting acknowledges unfinished => cases due
  | opens waiting syn bare => cases due; cases loss
  | establishes waiting expected => cases due; cases loss
  | closes waiting acknowledges finished expected => cases due; cases loss

/-- No channel refuses a segment for lack of room in the transmit ring. -/
theorem react_ne_queueFull : channel.react fresh segment ≠ .error (.refused .queueFull) := by
  grind [react, accept, establish, collect, close, expect, ReceiveWindow.append]

end Channel

end Tcp

/-! ## Frames -/

/-- Two frames of one packet under whatever numbers: they differ in the
identification and in the checksum of the header, and nowhere else. -/
def Ipv4.Restamped (frame again : Bytes) : Prop :=
  ∃ (outer : Ethernet.Header) (header : Ipv4.Header) (number other : UInt16) (payload : Bytes),
    frame = outer.encode ++ ((header.stamp number).encode ++ payload) ∧
      again = outer.encode ++ ((header.stamp other).encode ++ payload)

/-- Two frames of one packet under consecutive numbers: they differ in the
identification and in the checksum of the header, and nowhere else. -/
def Ipv4.Renumbered (frame again : Bytes) : Prop :=
  ∃ (outer : Ethernet.Header) (header : Ipv4.Header) (identification : UInt16) (payload : Bytes),
    frame = outer.encode ++ ((header.stamp identification).encode ++ payload) ∧
      again = outer.encode ++ ((header.stamp (identification + 1)).encode ++ payload)

namespace Interface

variable {interface : Interface} {automatic : Bool} {parcel : Parcel} {answer : Bytes}
  {sent unsent : Memory}

section Renumbering

variable {later : Interface} (config : later.config = interface.config)
  (cache : later.cache = interface.cache)

include config cache

/-- Where the same stations are known, a packet differs in its number alone. -/
theorem packetFrame_stamped (protocol : UInt8) (destination : Ipv4Address) (payload : Bytes) :
    ∃ (outer : Ethernet.Header) (header : Ipv4.Header),
      interface.packetFrame protocol destination payload =
          outer.encode ++ ((header.stamp interface.identification).encode ++ payload) ∧
        later.packetFrame protocol destination payload =
          outer.encode ++ ((header.stamp later.identification).encode ++ payload) := by
  let outer : Ethernet.Header := {
    destination := interface.nextHop destination
    source := interface.config.mac
    etherType := .ipv4 }
  let header : Ipv4.Header := {
    versionLength := Ipv4.versionAndLength
    service := 0
    totalLength := UInt16.ofNat (Ipv4.headerLength + payload.length)
    identification := 0
    fragment := 0
    timeToLive := Ipv4.initialTimeToLive
    protocol
    checksum := 0
    source := interface.config.address
    destination }
  refine ⟨outer, header, ?_, ?_⟩
  · rw [packetFrame, packetHeader]
  · rw [packetFrame, packetHeader, nextHop, config, cache]
    rfl

theorem restamped_segmentFrame (channel : Tcp.Channel) (flags : Tcp.Flags) (payload : Bytes) :
    Ipv4.Restamped (interface.segmentFrame channel flags payload)
      (later.segmentFrame channel flags payload) := by
  rw [segmentFrame, segmentFrame, config]
  obtain ⟨outer, header, here, there⟩ := packetFrame_stamped config cache Ipv4.Protocol.tcp
    channel.guest.address (segment interface.config channel flags payload)
  exact ⟨outer, header, _, _, _, here, there⟩

variable (identification : later.identification = interface.identification + 1)

include identification

/-- A packet is renumbered when one more number is spent. -/
theorem renumbered_packetFrame (protocol : UInt8) (destination : Ipv4Address) (payload : Bytes) :
    Ipv4.Renumbered (interface.packetFrame protocol destination payload)
      (later.packetFrame protocol destination payload) := by
  obtain ⟨outer, header, here, there⟩ :=
    packetFrame_stamped config cache protocol destination payload
  rw [identification] at there
  exact ⟨outer, header, interface.identification, payload, here, there⟩

theorem renumbered_segmentFrame (channel : Tcp.Channel) (flags : Tcp.Flags) (payload : Bytes) :
    Ipv4.Renumbered (interface.segmentFrame channel flags payload)
      (later.segmentFrame channel flags payload) := by
  rw [segmentFrame, segmentFrame, config]
  exact renumbered_packetFrame config cache identification _ _ _

end Renumbering

/-- What the answer to a frame is like on a second try: the same, or renumbered. -/
structure Redone (answer again : Bytes) (sent resent : Memory) : Prop where
  cache : resent.cache = sent.cache
  pool : resent.pool = sent.pool
  numbered :
    again = answer ∧ resent.identification = sent.identification ∨
      Ipv4.Renumbered answer again ∧ resent.identification = sent.identification + 1

theorem Redone.refl (answer : Bytes) (sent : Memory) : Redone answer answer sent sent :=
  ⟨rfl, rfl, .inl ⟨rfl, rfl⟩⟩

/-- A packet is sent again as it was, under the next number. -/
theorem redone_counted (interface : Interface) (protocol : UInt8) (destination : Ipv4Address)
    (payload : Bytes) :
    Redone (interface.packetFrame protocol destination payload)
      ((interface.recalling interface.counted).packetFrame protocol destination payload)
      interface.counted (interface.recalling interface.counted).counted where
  cache := rfl
  pool := rfl
  numbered := by
    refine .inr ⟨?_, rfl⟩
    apply renumbered_packetFrame
    · rfl
    · rfl
    · rfl

/-- What is owed for a frame, and was lost, is owed once more. -/
theorem Owes.again (sound : interface.Sound automatic)
    (owes : interface.Owes parcel answer sent unsent) :
    ∃ again resent unresent,
      (interface.recalling unsent).Owes parcel again resent unresent ∧
        Redone answer again sent resent := by
  cases owes with
  | @tells message asks =>
      have known : (interface.recalling (interface.learned message)).learned message =
          interface.learned message := by
        simp only [learned, recalling, memory, Arp.Cache.observe_observe]
      have owed : (interface.recalling (interface.learned message)).Owes _ _ _ _ := .tells asks
      rw [known] at owed
      exact ⟨_, _, _, owed, .refl _ _⟩
  | asks unknown => exact ⟨_, _, _, .asks unknown, .refl _ _⟩
  | replies known made =>
      exact ⟨_, _, _, .replies known made, interface.redone_counted _ _ _⟩
  | forwards made => exact ⟨_, _, _, .forwards made, interface.redone_counted _ _ _⟩
  | @reacts segment index reaction due restored serves reacts answers loss =>
      have channelSound := sound.channels index
      have how := (Tcp.Channel.react_eq_ok_iff channelSound.onLoop).mp reacts
      obtain ⟨window, -, back⟩ := how.of_undone answers loss
      let later : Interface :=
        interface.recalling (interface.reacted index restored (interface.identification + 1))
      have here : later.pool.get index = restored := Tcp.Pool.get_set_same _ _ _
      have bound : later.pool.Bound interface.config.address := by
        refine sound.bound.set ?_
        rw [back]
      have servesAgain : later.pool.find? segment.header.destinationPort = some index :=
        (bound.find?_eq sound.bound _).trans serves
      have reactsAgain : (later.pool.get index).react (later.pool.fresh index) segment =
          .ok reaction := by
        rw [here]
        exact how.react_restored channelSound answers loss
      refine ⟨_, _, _, .reacts servesAgain reactsAgain answers loss, ?_⟩
      refine ⟨rfl, Tcp.Pool.set_set _ _ _ _, .inr ⟨?_, rfl⟩⟩
      apply renumbered_segmentFrame
      · rfl
      · rfl
      · rfl

/-! ## The two tries -/

/-- Nothing that is asked about a frame on its way up is answered with a full
ring. -/
theorem handling_ne_queueFull (readable : parcel ≠ .unreadable .queueFull) :
    interface.handling parcel ≠ .refuses (.refused .queueFull) := by
  have packets {protocol : UInt8} {destination : Ipv4Address} {made : Except Fault Bytes} :
      interface.packetHandling protocol destination made ≠ .refuses (.refused .queueFull) := by
    cases made <;> exact nofun
  have deals := interface.deals parcel
  generalize interface.handling parcel = handling at deals ⊢
  intro refused
  cases deals with
  | drops cause =>
      cases refused
      exact readable rfl
  | passes => cases refused
  | tells asks => cases refused
  | hears other => cases refused
  | asks unknown => cases refused
  | echoes known => exact packets refused
  | forwards payload => exact packets refused
  | unserved closed => cases refused
  | rejects serves fails =>
      cases refused
      exact Tcp.Channel.react_ne_queueFull fails
  | reacts serves reacts =>
      rw [reactionHandling] at refused
      split at refused <;> cases refused

/-- What is owed fits into a packet buffer. -/
theorem Owes.take_eq (owes : interface.Owes parcel answer sent unsent) :
    answer.take packetSize = answer := by
  cases owes with
  | tells asks => exact interface.take_messageFrame _ _
  | asks unknown => exact interface.take_messageFrame _ _
  | replies known made =>
      apply take_packetFrame
      rw [Icmp.length_echoReply made]
      exact List.length_take_le _ _
  | forwards made => exact interface.take_packetFrame (length_hostDatagram made)
  | reacts => exact interface.take_segmentFrame _ _ _

variable {traffic : Traffic} {frame : Bytes}

/-- A frame that arrives while no other waits is handled by the next poll, and
leaves no trace on the sending side before it is. -/
theorem outcome_delivery (carries : interface.nic.Carries traffic) (idle : traffic.waiting = [])
    (nonempty : frame.take packetSize ≠ []) :
    ∃ received, interface.nic.SendsAlike received ∧ received.Carries traffic ∧
      poll.outcome ((Operation.inject frame).next interface) =
        let done := (interface.handling (.ofFrame packetSize (frame.take packetSize))).outcome
          { interface with nic := received }
        (done.1.map fun () => (frame.take packetSize).length, done.2) := by
  obtain ⟨alike, onRelayed⟩ := relayed_sendsAlike carries idle frame
  refine ⟨interface.relayed frame, alike, onRelayed, ?_⟩
  rw [outcome_arrival carries idle, Parcel.arriving_of_nonempty nonempty]

/-- An empty frame is taken without a word. -/
theorem delivery_empty (carries : interface.nic.Carries traffic) (idle : traffic.waiting = [])
    (empty : frame.take packetSize = []) :
    Operation.poll.result ((Operation.inject frame).next interface) = .ok () := by
  rw [Operation.result, outcome_perform_poll, outcome_arrival carries idle, Parcel.arriving,
    if_pos empty]
  rfl

/-- A poll that fails for lack of room had an answer to queue, and what it leaves
is what is remembered without that answer. -/
theorem delivery_refused_full (carries : interface.nic.Carries traffic)
    (idle : traffic.waiting = [])
    (refused : Operation.poll.result ((Operation.inject frame).next interface) =
      .error (.refused .queueFull)) :
    frame.take packetSize ≠ [] ∧ traffic.hasRoom = false ∧
      ∃ answer sent unsent,
        interface.handling (.ofFrame packetSize (frame.take packetSize)) =
            .answers answer sent unsent false ∧
          ∃ received, interface.nic.SendsAlike received ∧ received.Carries traffic ∧
            interface.after [.inject frame, .poll] =
              { interface with nic := received }.recalling unsent := by
  have nonempty : frame.take packetSize ≠ [] := by
    intro empty
    rw [delivery_empty carries idle empty] at refused
    cases refused
  refine ⟨nonempty, ?_⟩
  obtain ⟨received, alike, onReceived, polled⟩ := outcome_delivery carries idle nonempty
  let polling : Interface := { interface with nic := received }
  have onPolling : polling.nic.Carries traffic := onReceived
  let handling := interface.handling (.ofFrame packetSize (frame.take packetSize))
  have failed : (handling.outcome polling).1 = .error (.refused .queueFull) := by
    rw [Operation.result, outcome_perform_poll, polled] at refused
    dsimp only at refused
    cases answered : (handling.outcome polling).1 with
    | ok value =>
        rw [answered] at refused
        cases refused
    | error failure =>
        rw [answered] at refused
        cases refused
        rfl
  rcases Handling.outcome_error onPolling failed with
    ⟨refuses, -⟩ | ⟨-, full, answer, sent, unsent, owed, becomes⟩
  · exact absurd refuses (handling_ne_queueFull (Parcel.ofFrame_ne_queueFull _ _))
  · refine ⟨full, answer, sent, unsent, owed, received, alike, onReceived, ?_⟩
    rw [after, after, after, Operation.next, outcome_perform_poll, polled]
    exact becomes

/-- What is queued for a frame that arrives while there is room and no other frame
waits. -/
theorem delivery_answered (carries : interface.nic.Carries traffic)
    (idle : traffic.waiting = []) (room : traffic.hasRoom = true)
    (nonempty : frame.take packetSize ≠ [])
    (owed : interface.handling (.ofFrame packetSize (frame.take packetSize)) =
      .answers answer sent unsent false) :
    ∃ received, interface.nic.SendsAlike received ∧ received.Carries traffic ∧
      poll.outcome ((Operation.inject frame).next interface) =
        (.ok (frame.take packetSize).length,
          { interface.recalling sent with nic := ((Nic.transmit answer).outcome received).2 }) := by
  obtain ⟨received, alike, onReceived, polled⟩ := outcome_delivery carries idle nonempty
  let polling : Interface := { interface with nic := received }
  have onPolling : polling.nic.Carries traffic := onReceived
  refine ⟨received, alike, onReceived, ?_⟩
  rw [polled, owed, Handling.outcome_answers onPolling room]
  rfl

end Interface

namespace Setup

/-- A frame whose answer found no room can be sent again, and nothing is left of
the first try.  Wherever a run has led, if no frame waits and polling a frame
fails for lack of room, then the ring can be emptied and the frame delivered
again, and all is as if the ring had been emptied first and the frame delivered
once: the poll succeeds, the channels and the known bindings are the same, and
one frame is queued, behind the same frames.  It is the same frame, unless it
carries a packet: then the packet has the next number.  Beyond that the two
differ only in where they stand in the receive ring. -/
theorem retry_leaves_no_trace (setup : Setup) (operations : List Operation) (frame : Bytes)
    (idle : (setup.start.after operations).nic.receiveReady = false)
    (refused : Operation.poll.result
        ((Operation.inject frame).next (setup.start.after operations)) =
      .error (.refused .queueFull)) :
    let reached := setup.start.after operations
    let direct := Interface.poll.outcome (reached.after [.completeTransmits, .inject frame])
    let retried := Interface.poll.outcome
      (reached.after [.inject frame, .poll, .completeTransmits, .inject frame])
    direct.1 = .ok (min frame.length 2048) ∧ retried.1 = direct.1 ∧
      retried.2.config = direct.2.config ∧ retried.2.pool = direct.2.pool ∧
      retried.2.cache = direct.2.cache ∧ retried.2.nic.clock = direct.2.nic.clock ∧
      (∀ register, register ≠ .receiveHead → register ≠ .receiveTail →
        retried.2.nic.reg register = direct.2.nic.reg register) ∧
      direct.2.nic.receiveReady = false ∧ retried.2.nic.receiveReady = false ∧
      retried.2.nic.sent = direct.2.nic.sent ∧
      ∃ answer again,
        direct.2.nic.outbox = reached.nic.outbox ++ [answer] ∧
          retried.2.nic.outbox = reached.nic.outbox ++ [again] ∧
          (again = answer ∧ retried.2.identification = direct.2.identification ∨
            Ipv4.Renumbered answer again ∧
              retried.2.identification = direct.2.identification + 1) := by
  intro reached direct retried
  have sound : reached.Sound setup.automatic := (setup.sound_after operations).1
  obtain ⟨traffic, carries, -, empty⟩ := sound.at_rest idle
  obtain ⟨nonempty, full, answer, sent, unsent, owed, received, alike, onReceived, left⟩ :=
    Interface.delivery_refused_full carries empty refused
  have owes := Interface.owes_of_handling owed
  obtain ⟨again, resent, unresent, owesAgain, redone⟩ := owes.again sound
  have stalled : traffic.flush.automatic = false := carries.prompt.stalled full
  have room : traffic.flush.hasRoom = true := rfl
  have vacant : traffic.flush.pending.length < ringSize := of_decide_eq_true room
  -- The ring is emptied: before the frame arrives, or between its two arrivals.
  let freed : Interface :=
    { reached with nic := (Nic.completeTransmits.outcome reached.nic).2 }
  let freedLater : Interface :=
    { reached.recalling unsent with nic := (Nic.completeTransmits.outcome received).2 }
  have freedAlike : freed.nic.SendsAlike freedLater.nic := alike.completeTransmits
  have onFreed : freed.nic.Carries traffic.flush := carries.flushed
  have onFreedLater : freedLater.nic.Carries traffic.flush := onReceived.flushed
  -- What was owed is owed still, or again.
  have owedDirect := owes.handling_eq
  have owedAgain := owesAgain.handling_eq
  rw [← Interface.handling_nic reached freed.nic] at owedDirect
  rw [← Interface.handling_nic (reached.recalling unsent) freedLater.nic] at owedAgain
  obtain ⟨onceNic, onceAlike, onOnce, once⟩ :=
    Interface.delivery_answered onFreed empty room nonempty owedDirect
  obtain ⟨twiceNic, twiceAlike, onTwice, twice⟩ :=
    Interface.delivery_answered onFreedLater empty room nonempty owedAgain
  have leads : reached.after [.inject frame, .poll, .completeTransmits, .inject frame] =
      (Operation.inject frame).next freedLater := by
    show (Operation.inject frame).next
      (Operation.completeTransmits.next (reached.after [.inject frame, .poll])) = _
    rw [left]
    rfl
  have directly : direct = _ := once
  have late : retried = _ := (congrArg Interface.poll.outcome leads).trans twice
  obtain ⟨clock, registers⟩ :=
    (onceAlike.symm.trans (freedAlike.trans twiceAlike)).transmit onOnce onTwice stalled vacant
      answer again
  obtain ⟨idleOnce, sentOnce, outboxOnce⟩ :=
    onOnce.seen_queued stalled vacant empty owes.take_eq
  obtain ⟨idleTwice, sentTwice, outboxTwice⟩ :=
    onTwice.seen_queued stalled vacant empty owesAgain.take_eq
  have before : reached.nic.outbox = traffic.flush.outbound := by
    rw [carries.outbox, Traffic.outbound_flush]
  rw [directly, late, before]
  refine ⟨?_, rfl, rfl, redone.pool, redone.cache, clock, registers, idleOnce, idleTwice,
    sentTwice.trans sentOnce.symm, answer, again, outboxOnce, outboxTwice, redone.numbered⟩
  dsimp only
  rw [List.length_take, Nat.min_comm, packetSize]

theorem retry_leaves_no_trace_at_question :
    let full := (Setup.default false).start.after stuffed
    let direct := Interface.poll.outcome (full.after [.completeTransmits, .inject questionFrame])
    let retried := Interface.poll.outcome
      (full.after [.inject questionFrame, .poll, .completeTransmits, .inject questionFrame])
    Operation.poll.result ((Operation.inject questionFrame).next full) =
        .error (.refused .queueFull) ∧
      retried.1 = .ok questionFrame.length ∧ retried.2.cache = direct.2.cache := by
  dsimp only
  obtain ⟨idle, refused⟩ := question_refused_at_stuffed
  obtain ⟨answered, same, -, -, known, -⟩ :=
    retry_leaves_no_trace (Setup.default false) stuffed questionFrame idle refused
  have short : min questionFrame.length 2048 = questionFrame.length :=
    Nat.min_eq_left (by decide)
  rw [short] at answered
  exact ⟨refused, same.trans answered, known⟩

end Setup

end NetStack
