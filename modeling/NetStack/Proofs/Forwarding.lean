/-
Module: NetStack.Proofs.Forwarding
Purpose: What a datagram declares to be its payload reaches the host, cut to what one
  datagram carries.
Main exports:
  Udp.Fills, Udp.exists_fills, Udp.declared, Udp.exists_header, Parcel.ofDatagram_headed,
  Interface.forward_owed, Interface.Sound.sends_packet, Setup.forwarding_is_exact
-/
import NetStack.Proofs.Echoing

namespace NetStack

open Interface (Operation)

/-!
A datagram of any size and with any length field is passed on, and always to the host.
What is passed on is bounded three times: by what was declared, by what was there, and by
what one datagram carries.  The first two bounds meet where it is read, and the third
where it is written.
-/

namespace Udp

/-- What is written of a payload: the datagram that carries as much of it as there is room
for, at the front of the buffer, and nothing behind it. -/
structure Fills (sourcePort destinationPort : UInt16) (payload out : Bytes) (written : Written) :
    Prop where
  length : written.length = 8 + min payload.length (min 1472 (out.length - 8))
  size : written.buffer.length = out.length
  behind : written.buffer.drop written.length = out.drop written.length
  conveys : Conveys sourcePort destinationPort (payload.take (written.length - 8))
    (written.buffer.take written.length)

theorem exists_fills (sourcePort destinationPort : UInt16) (payload : Bytes) {out : Bytes}
    (room : 8 ≤ out.length) :
    ∃ written, writeDatagram sourcePort destinationPort payload out = .ok written ∧
      Fills sourcePort destinationPort payload out written := by
  let carried := payload.take (min maxPayload (out.length - headerLength))
  let made := datagram sourcePort destinationPort carried
  have size : carried.length = min (min 1472 (out.length - 8)) payload.length :=
    List.length_take
  have whole : made.length = 8 + carried.length :=
    length_datagram sourcePort destinationPort carried
  have inside : made.length ≤ out.length := by omega
  have cut : payload.take (made.length - 8) = carried := by
    rw [whole, Nat.add_sub_cancel_left, size, ← List.take_eq_take_min]
    rfl
  refine ⟨_, writeDatagram_eq sourcePort destinationPort payload room, ?_, ?_, ?_, ?_⟩
  · rw [whole, size, Nat.min_comm]
  · rw [List.length_append, List.length_drop]
    exact Nat.add_sub_cancel' inside
  · exact List.drop_left
  · rw [List.take_left, cut]
    exact conveys_datagram sourcePort destinationPort (by
      show carried.length ≤ 1472
      omega)

/-- What a datagram declares to be its payload, as far as it goes. -/
def declared (datagram : Bytes) : Bytes :=
  (datagram.take (max 8 (min (Ipv4.wordAt datagram 4).toNat datagram.length))).drop 8

theorem exists_header {datagram : Bytes} (headed : 8 ≤ datagram.length) :
    ∃ header, Header.decode datagram = some header ∧
      header.length = Ipv4.wordAt datagram 4 ∧ header.payload datagram = declared datagram := by
  obtain ⟨header, rest, rfl⟩ :=
    Header.restores_reader.exists_write Header.suffices_reader headed
  have length : header.length = Ipv4.wordAt (header.encode ++ rest) 4 :=
    (Wire.join16_split header.length).symm
  refine ⟨header, Header.decode_encode header rest, length, ?_⟩
  rw [declared, ← length]
  rfl

end Udp

theorem Parcel.ofDatagram_headed {datagram : Bytes} (headed : 8 ≤ datagram.length) :
    ofDatagram datagram = .datagram (Udp.declared datagram) := by
  obtain ⟨header, decoded, -, payload⟩ := Udp.exists_header headed
  rw [ofDatagram, decoded, ← payload]

namespace Interface

/-- The datagram that is sent to the host for one that declares a payload. -/
def forwarded (config : Config) (datagram : Bytes) : Bytes :=
  Udp.datagram config.udpSourcePort config.udpDestinationPort
    ((Udp.declared datagram).take Udp.maxPayload)

theorem length_forwarded (config : Config) (datagram : Bytes) :
    (forwarded config datagram).length ≤ Ipv4.maxPayload :=
  length_hostDatagram (hostDatagram_eq config (Udp.declared datagram))

/-- A datagram is owed one packet to the host, whoever sent it. -/
theorem forward_owed (interface : Interface) {datagram : Bytes} (headed : 8 ≤ datagram.length) :
    interface.handling (.ofDatagram datagram) =
      .answers
        (interface.packetFrame Ipv4.Protocol.udp interface.config.hostAddress
          (forwarded interface.config datagram))
        interface.counted interface.counted false := by
  rw [Parcel.ofDatagram_headed headed, handling, hostDatagram_eq]
  rfl

/-- A packet that is owed is sent at once by a running adapter, and nothing changes but the
number of the next packet and the sending side. -/
theorem Sound.sends_packet {interface : Interface} (sound : interface.Sound true)
    (protocol : UInt8) (destination : Ipv4Address) {payload : Bytes}
    (fits : payload.length ≤ Ipv4.maxPayload) :
    let frame := interface.packetFrame protocol destination payload
    let done := (Handling.answers frame interface.counted interface.counted false).outcome interface
    done.1 = .ok () ∧ done.2.nic.sent = interface.nic.sent ++ [frame] ∧
      done.2 =
        { interface with nic := done.2.nic, identification := interface.identification + 1 } ∧
      interface.nic.ReceivesAlike done.2.nic := by
  intro frame done
  obtain ⟨traffic, carries, running⟩ := sound.wired
  let handling : Handling := .answers frame interface.counted interface.counted false
  obtain ⟨handled, sent, -⟩ := handling.outcome_running carries running carries
  rw [Handling.frames, interface.take_packetFrame fits] at sent
  have receives := (handling.outcome_receiving carries).1
  have becomes : done = _ := handled
  refine ⟨?_, ?_, ?_, receives⟩
  · rw [becomes]
    rfl
  · rw [becomes]
    exact sent
  · rw [becomes]
    rfl

end Interface

namespace Setup

/-- The host is never forgotten. -/
theorem lookup_host (setup : Setup) (operations : List Operation) :
    (setup.start.after operations).cache.lookup setup.config.hostAddress =
      some setup.config.hostMac := by
  obtain ⟨sightings, table⟩ := setup.cache_after operations
  rw [table, Arp.lookup_observeAll]
  exact if_pos rfl

/-- Datagrams are read as they were written, and what they declare is passed on.  A
buffer with room for the header is filled with as much of the payload as there is room
for, and that much is read back.  What a datagram of any length declares can be cut out of
it.  So, wherever a run has led on a running adapter, a datagram from anywhere is answered
with one frame and no other: an intact packet to the host, at its station, with a datagram
that carries up to 1472 bytes of what was declared.  Nothing changes but the number of the
next packet and the sending side of the adapter. -/
theorem forwarding_is_exact :
    (∀ (sourcePort destinationPort : UInt16) (payload out : Bytes), 8 ≤ out.length →
      ∃ written, Udp.writeDatagram sourcePort destinationPort payload out = .ok written ∧
        Udp.Fills sourcePort destinationPort payload out written) ∧
    (∀ datagram : Bytes, 8 ≤ datagram.length →
      (∃ header, Udp.Header.decode datagram = some header ∧
        header.length = Ipv4.wordAt datagram 4 ∧
        header.payload datagram = Udp.declared datagram) ∧
      ∀ header : Udp.Header,
        Bytes.slice datagram 8 (max 8 (min header.length.toNat datagram.length)) =
          .ok (header.payload datagram)) ∧
    ∀ (setup : Setup) (operations : List Operation) (datagram : Bytes),
      setup.automatic = true → 8 ≤ datagram.length →
      let reached := setup.start.after operations
      let done := (Interface.receiveDatagram datagram).outcome reached
      ∃ frame reply : Bytes,
        done.1 = .ok () ∧ done.2.nic.sent = reached.nic.sent ++ [frame] ∧
        Interface.CarriesPacket setup.config setup.config.hostMac Ipv4.Protocol.udp
          setup.config.hostAddress reply frame ∧
        Ipv4.Intact (frame.drop 14) ∧
        (Ipv4.wordAt (frame.drop 14) 2).toNat = (frame.drop 14).length ∧
        Udp.Conveys setup.config.udpSourcePort setup.config.udpDestinationPort
          ((Udp.declared datagram).take 1472) reply ∧
        done.2 =
          { reached with nic := done.2.nic, identification := reached.identification + 1 } ∧
        reached.nic.ReceivesAlike done.2.nic ∧
        ∀ header : Ipv4.Header, header.protocol = Ipv4.Protocol.udp →
          (Interface.dispatchPacket header datagram).outcome reached = done := by
  refine ⟨?_, ?_, ?_⟩
  · intro sourcePort destinationPort payload out room
    exact Udp.exists_fills sourcePort destinationPort payload room
  · intro datagram headed
    exact ⟨Udp.exists_header headed, fun header => header.slice_payload headed⟩
  · intro setup operations datagram running headed reached done
    obtain ⟨sound, configured⟩ := setup.sound_after operations
    rw [running] at sound
    have known : reached.nextHop setup.config.hostAddress = setup.config.hostMac := by
      rw [Interface.nextHop, setup.lookup_host operations]
      rfl
    let reply := Interface.forwarded setup.config datagram
    have fits : reply.length ≤ Ipv4.maxPayload := Interface.length_forwarded _ datagram
    have owed := reached.forward_owed headed
    rw [configured] at owed
    have answered := Interface.outcome_receiveDatagram reached datagram
    rw [owed] at answered
    obtain ⟨succeeds, sent, kept, receives⟩ :=
      sound.sends_packet Ipv4.Protocol.udp setup.config.hostAddress fits
    obtain ⟨intact, full⟩ :=
      reached.intact_packetFrame Ipv4.Protocol.udp setup.config.hostAddress fits
    have carriesReply := reached.carriesPacket_packetFrame Ipv4.Protocol.udp
      setup.config.hostAddress reply
    rw [configured, known] at carriesReply
    have conveys : Udp.Conveys setup.config.udpSourcePort setup.config.udpDestinationPort
        ((Udp.declared datagram).take 1472) reply :=
      Udp.conveys_datagram _ _ (List.length_take_le _ _)
    have anywhere (header : Ipv4.Header) (protocol : header.protocol = Ipv4.Protocol.udp) :
        (Interface.dispatchPacket header datagram).outcome reached = done := by
      unfold Interface.dispatchPacket
      rw [protocol]
      rfl
    rw [← answered] at succeeds sent kept receives
    exact ⟨_, reply, succeeds, sent, carriesReply, intact, full, conveys, kept, receives,
      anywhere⟩

/-- Three bytes that are said to be two hundred reach the host as three. -/
theorem forwarding_is_exact_at_start :
    let start := (Setup.default true).start
    let datagram : Bytes := Udp.Header.encode ⟨40000, 7, 200, 0⟩ ++ [0x61, 0x62, 0x63]
    let done := (Interface.receiveDatagram datagram).outcome start
    (∃ written, Udp.writeDatagram 40000 7 [0x61, 0x62, 0x63] (.zeros 10) = .ok written ∧
      written.length = 10) ∧
    Bytes.slice datagram 8 11 = .ok (Udp.Header.payload ⟨40000, 7, 200, 0⟩ datagram) ∧
    ∃ frame reply : Bytes,
      done.1 = .ok () ∧ done.2.nic.sent = start.nic.sent ++ [frame] ∧
      Interface.CarriesPacket Config.default Config.default.hostMac Ipv4.Protocol.udp
        Config.default.hostAddress reply frame ∧
      Udp.Conveys 8081 1234 [0x61, 0x62, 0x63] reply := by
  intro start datagram done
  obtain ⟨writes, reads, forwards⟩ := forwarding_is_exact
  obtain ⟨written, made, fills⟩ := writes 40000 7 [0x61, 0x62, 0x63] (.zeros 10) (by decide)
  obtain ⟨frame, reply, answered, sent, carries, -, -, conveys, -⟩ :=
    forwards (Setup.default true) [] datagram rfl (by decide)
  have nothing : (Setup.default true).start.after [] = start := rfl
  rw [nothing] at answered sent
  have declares : (Udp.declared datagram).take 1472 = [0x61, 0x62, 0x63] := by decide
  rw [declares] at conveys
  exact ⟨⟨written, made, fills.length⟩, (reads datagram (by decide)).2 ⟨40000, 7, 200, 0⟩,
    frame, reply, answered, sent, carries, conveys⟩

end Setup

end NetStack
