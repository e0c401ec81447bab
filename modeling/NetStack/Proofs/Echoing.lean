/-
Module: NetStack.Proofs.Echoing
Purpose: Echoes repeat what was sent, and their checksums are valid whatever that was.
Main exports:
  Icmp.checksum_repeating, Icmp.getElem?_repeating, Icmp.checksum_repeating_modEq,
  Interface.intact_packetFrame, Setup.echo_is_faithful
-/
import NetStack.Proofs.Acceptance
import NetStack.Proofs.Draining
import NetStack.Proofs.Pinging

namespace NetStack

open Interface (Operation)

/-!
The reply to an echo request is the request again, but for its kind and its checksum.
The checksum is made anew and not carried over, so it is valid even if that of the
request was not.  Where that was valid, the two differ by what the kinds differ by, as
far as checksums can tell numbers apart.
-/

namespace Icmp

variable {message behind : Bytes}

/-- A request starts with its kind, its code and its checksum. -/
theorem exists_request (long : 8 ≤ message.length) (kind : Ipv4.byteAt message 0 = 8)
    (code : Ipv4.byteAt message 1 = 0) :
    ∃ header stored behind, Header.decode message = some header ∧
      header.isEchoRequest = true ∧ header.code = 0 ∧
      message = [8, 0] ++ (Wire.word16 stored ++ behind) := by
  obtain ⟨header, rest, rfl⟩ := Header.restores_reader.exists_write Header.suffices_reader long
  have kinds : header.kind = 8 := kind
  have codes : header.code = 0 := code
  refine ⟨header, header.checksum,
    Wire.word16 header.identifier ++ Wire.word16 header.sequence ++ rest,
    Header.decode_encode header rest, ?_, codes, ?_⟩
  · rw [Header.isEchoRequest, kinds]
    rfl
  · rw [← kinds, ← codes]
    rfl

/-- The reply makes up for whatever it repeats. -/
theorem checksum_repeating (behind : Bytes) : Checksum.checksum (repeating behind) = 0 := by
  have even : ([replyKind, 0] : Bytes).length % 2 = 0 := rfl
  have stored := Checksum.checksum_stored even behind
  rw [← List.append_assoc] at stored
  exact stored

theorem length_repeating (behind : Bytes) : (repeating behind).length = 4 + behind.length := by
  rw [repeating, List.length_append, List.length_append, Wire.length_word16]
  rfl

/-- Kind and checksum apart, each byte of the reply stands where it stood in the
request. -/
theorem getElem?_repeating (stored : UInt16) {place : Nat} (first : place ≠ 0)
    (third : place ≠ 2) (fourth : place ≠ 3) :
    (repeating behind)[place]? = ([8, 0] ++ (Wire.word16 stored ++ behind))[place]? := by
  match place with
  | 0 => exact absurd rfl first
  | 1 => rfl
  | 2 => exact absurd rfl third
  | 3 => exact absurd rfl fourth
  | place + 4 => rfl

/-- Where the request was valid, its checksum lacks the difference of the kinds. -/
theorem checksum_repeating_modEq {stored : UInt16}
    (valid : Checksum.checksum ([8, 0] ++ (Wire.word16 stored ++ behind)) = 0) :
    (Ipv4.wordAt (repeating behind) 2).toNat ≡ stored.toNat + 0x0800 [MOD 0xFFFF] := by
  let due := Checksum.checksum ([replyKind, 0, 0, 0] ++ behind)
  have held : Ipv4.wordAt (repeating behind) 2 = due := Wire.join16_split due
  have made := checksum_repeating behind
  have laid : repeating behind = [replyKind, 0] ++ (Wire.word16 due ++ behind) := rfl
  have asked : Checksum.total [8, 0] = 0x0800 := rfl
  have replied : Checksum.total [replyKind, 0] = 0 := rfl
  rw [laid] at made
  rw [← UInt16.toNat_inj, Checksum.toNat_checksum_eq, Checksum.total_field rfl] at valid made
  rw [asked] at valid
  rw [replied] at made
  rw [held, Nat.ModEq]
  simp only [UInt16.reduceToNat] at valid made
  omega

/-- A faithful reply to an echo request: as much of it as a packet has room for, with the
kind of a reply and a checksum that is valid. -/
structure Echoes (message reply : Bytes) : Prop where
  length : reply.length = min message.length Ipv4.maxPayload
  kind : reply[0]? = some 0
  repeats : ∀ place, place ≠ 0 → place ≠ 2 → place ≠ 3 →
    reply[place]? = (message.take Ipv4.maxPayload)[place]?
  valid : Checksum.checksum reply = 0
  /-- The checksum of a valid request that was not cut is told from its own. -/
  updates : Checksum.checksum message = 0 → message.length ≤ Ipv4.maxPayload →
    (Ipv4.wordAt reply 2).toNat ≡ (Ipv4.wordAt message 2).toNat + 0x0800 [MOD 0xFFFF]

theorem echoes_repeating (long : 8 ≤ message.length) (kind : Ipv4.byteAt message 0 = 8)
    (code : Ipv4.byteAt message 1 = 0) :
    Echoes message (repeating ((message.take Ipv4.maxPayload).drop 4)) := by
  obtain ⟨header, stored, behind, -, -, -, rfl⟩ := exists_request long kind code
  have carried : ([8, 0] ++ (Wire.word16 stored ++ behind)).take Ipv4.maxPayload =
      [8, 0] ++ (Wire.word16 stored ++ behind.take 1476) := rfl
  have rest : ([8, 0] ++ (Wire.word16 stored ++ behind.take 1476)).drop 4 =
      behind.take 1476 := rfl
  rw [carried, rest]
  refine ⟨?_, rfl, ?_, checksum_repeating _, ?_⟩
  · have room : Ipv4.maxPayload = 1480 := rfl
    rw [length_repeating, List.length_take, room]
    simp only [List.length_append, List.length_cons, List.length_nil, Wire.length_word16]
    omega
  · intro place first third fourth
    rw [carried]
    exact getElem?_repeating stored first third fourth
  · intro valid short
    have uncut : behind.take 1476 = behind := by
      apply List.take_of_length_le
      have room : Ipv4.maxPayload = 1480 := rfl
      simp only [List.length_append, List.length_cons, List.length_nil, Wire.length_word16,
        room] at short
      omega
    have held : Ipv4.wordAt ([8, 0] ++ (Wire.word16 stored ++ behind)) 2 = stored :=
      Wire.join16_split stored
    rw [uncut, held]
    exact checksum_repeating_modEq valid

end Icmp

theorem Parcel.ofEcho_request {sender : Ipv4Address} {message : Bytes} {header : Icmp.Header}
    (decoded : Icmp.Header.decode message = some header) (asks : header.isEchoRequest = true)
    (coded : header.code = 0) : Parcel.ofEcho sender message = .echo sender message := by
  rw [ofEcho, decoded]
  simp [asks, coded]

namespace Interface

/-- A packet that the stack sends is one that it would accept, and fills its frame. -/
theorem intact_packetFrame (interface : Interface) (protocol : UInt8)
    (destination : Ipv4Address) {payload : Bytes} (fits : payload.length ≤ Ipv4.maxPayload) :
    let packet := (interface.packetFrame protocol destination payload).drop 14
    Ipv4.Intact packet ∧ (Ipv4.wordAt packet 2).toNat = packet.length := by
  obtain ⟨total, version, intact, holds, inside⟩ :=
    interface.admits_packetHeader protocol destination fits
  have packet : (interface.packetFrame protocol destination payload).drop 14 =
      (interface.packetHeader protocol destination payload).encode ++ payload :=
    interface.drop_packetFrame protocol destination payload
  have size : ((interface.packetHeader protocol destination payload).encode ++ payload).length =
      Ipv4.headerLength + payload.length := by
    rw [List.length_append, Ipv4.Header.length_encode]
  rw [packet]
  refine ⟨⟨?_, version, ?_, ?_, ?_⟩, ?_⟩
  · rw [size]
    exact Nat.le_add_right _ _
  · rw [Ipv4.headerChecksum_encode, Ipv4.wordAt_checksum]
    exact intact
  · rw [Ipv4.wordAt_total]
    exact holds
  · rw [Ipv4.wordAt_total]
    exact inside
  · rw [Ipv4.wordAt_total, total, size]

end Interface

namespace Setup

/-- Echoes are faithful, and their checksums always valid.  Wherever a run has led on a
running adapter, a request of whatever length from a sender with a binding is answered
with one frame and no other: an intact packet to the sender, at the station that it is
bound to, with a faithful reply for its payload.  Nothing changes but the number of the
next packet and the sending side of the adapter. -/
theorem echo_is_faithful (setup : Setup) (running : setup.automatic = true)
    (operations : List Operation) (sender : Ipv4Address) (station : MacAddress)
    (message : Bytes)
    (known : (setup.start.after operations).cache.lookup sender = some station)
    (long : 8 ≤ message.length) (kind : Ipv4.byteAt message 0 = 8)
    (code : Ipv4.byteAt message 1 = 0) :
    let reached := setup.start.after operations
    let done := (Interface.receiveEcho sender message).outcome reached
    ∃ frame reply : Bytes,
      done.1 = .ok () ∧ done.2.nic.sent = reached.nic.sent ++ [frame] ∧
      Interface.CarriesPacket setup.config station Ipv4.Protocol.icmp sender reply frame ∧
      Ipv4.Intact (frame.drop 14) ∧
      (Ipv4.wordAt (frame.drop 14) 2).toNat = (frame.drop 14).length ∧
      Icmp.Echoes message reply ∧
      done.2 =
        { reached with nic := done.2.nic, identification := reached.identification + 1 } ∧
      reached.nic.ReceivesAlike done.2.nic := by
  intro reached done
  obtain ⟨sound, configured⟩ := setup.sound_after operations
  obtain ⟨traffic, carries, automatic⟩ := sound.wired
  obtain ⟨header, -, -, decoded, asks, coded, -⟩ := Icmp.exists_request long kind code
  let reply := Icmp.repeating ((message.take Ipv4.maxPayload).drop 4)
  let frame := reached.packetFrame Ipv4.Protocol.icmp sender reply
  let handling : Interface.Handling := .answers frame reached.counted reached.counted false
  have whole : (Parcel.echo sender message).Whole := ⟨header, decoded, asks, coded⟩
  obtain ⟨fits, owed, carriesReply⟩ := reached.echo_owed known whole
  have answered : done = handling.outcome reached := by
    rw [← Parcel.ofEcho_request decoded asks coded] at owed
    exact (Interface.outcome_receiveEcho reached sender message).trans
      (congrArg (·.outcome reached) owed)
  obtain ⟨handled, sent, -⟩ :=
    handling.outcome_running carries (automatic.trans running) carries
  obtain ⟨intact, full⟩ := reached.intact_packetFrame Ipv4.Protocol.icmp sender fits
  rw [configured] at carriesReply
  rw [Interface.Handling.frames, reached.take_packetFrame fits] at sent
  rw [answered]
  refine ⟨frame, reply, ?_, ?_, carriesReply, intact, full,
    Icmp.echoes_repeating long kind code, ?_, ?_⟩
  · rw [handled]
    rfl
  · rw [handled]
    exact sent
  · rw [handled]
    rfl
  · exact (handling.outcome_receiving carries).1

/-- The host wants an echo of nothing, and its request is valid. -/
theorem echo_is_faithful_at_start :
    let start := (Setup.default true).start
    let message : Bytes := [8, 0, 0xF7, 0xFD, 0, 1, 0, 1]
    let done := (Interface.receiveEcho Config.default.hostAddress message).outcome start
    Checksum.checksum message = 0 ∧
      ∃ frame reply : Bytes,
        done.1 = .ok () ∧ done.2.nic.sent = start.nic.sent ++ [frame] ∧
        Interface.CarriesPacket Config.default Config.default.hostMac Ipv4.Protocol.icmp
          Config.default.hostAddress reply frame ∧
        Icmp.Echoes message reply ∧
        (Ipv4.wordAt reply 2).toNat ≡ 0xF7FD + 0x0800 [MOD 0xFFFF] := by
  intro start message done
  have valid : Checksum.checksum message = 0 := by decide
  obtain ⟨frame, reply, answered, sent, carries, -, -, echoes, -, -⟩ :=
    echo_is_faithful (Setup.default true) rfl [] Config.default.hostAddress
      Config.default.hostMac message rfl (by decide) rfl rfl
  have nothing : (Setup.default true).start.after [] = start := rfl
  rw [nothing] at answered sent
  have stored : (Ipv4.wordAt message 2).toNat = 0xF7FD := by decide
  have updates := echoes.updates valid (by decide)
  rw [stored] at updates
  exact ⟨valid, frame, reply, answered, sent, carries, echoes, updates⟩

end Setup

end NetStack
