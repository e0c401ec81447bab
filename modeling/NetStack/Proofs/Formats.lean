/-
Module: NetStack.Proofs.Formats
Purpose: Reading and writing undo each other, in each of the six formats.
Main exports:
  Wire.Inverse, Wire.Inverse.of_reader, Wire.formats_are_inverse
-/
import NetStack.Proofs.Headers

namespace NetStack.Wire

/-!
A reader may forget what it reads, and a writer may write what no reader takes: a byte
that is passed over is gone, and a named kind can be written down without its name.
Whatever else there is to a header goes through unharmed in both directions.
-/

variable {α : Type} {length : Nat}

/-- A format of `length` bytes whose reader and writer undo each other.  Reading fails
for want of bytes, and for nothing else.  What was read is written as the front of the
data, once this is mended.  What is proper is read back as it was written, whatever
follows it. -/
structure Inverse (length : Nat) (decode : Bytes → Option α) (encode : α → Bytes)
    (mend : Bytes → Bytes) (Proper : α → Prop) : Prop where
  decode_eq_none_iff : ∀ data, decode data = none ↔ data.length < length
  encode_of_decode : ∀ data header, decode data = some header →
    encode header = (mend data).take length
  decode_encode : ∀ header rest, Proper header → decode (encode header ++ rest) = some header

/-- Such is the reader of a row of fields none of which is passed over. -/
theorem Inverse.of_reader {reader : Reader α} {encode : α → Bytes} {Proper : α → Prop}
    (enough : reader.Suffices length) (takes : reader.Takes length)
    (restores : reader.Restores [] encode) (sized : ∀ header, (encode header).length = length)
    (reads : ∀ header rest, Proper header →
      reader.read (encode header ++ rest) = some header) :
    Inverse length reader.read encode id Proper where
  decode_eq_none_iff := fun _ => enough.read_eq_none_iff takes
  encode_of_decode := by
    intro data header found
    rw [id, ← sized header]
    exact restores.write_of_read found
  decode_encode := reads

theorem inverse_ethernet :
    Inverse 14 Ethernet.Header.decode Ethernet.Header.encode id
      fun header => ∃ value, header.etherType = .ofWord value := by
  refine .of_reader Ethernet.Header.suffices_reader Ethernet.Header.takes_reader
    Ethernet.Header.restores_reader Ethernet.Header.length_encode ?_
  rintro header rest ⟨value, kind⟩
  apply Ethernet.Header.decode_encode
  rw [kind, EtherType.toWord_ofWord]

theorem inverse_arp :
    Inverse 28 Arp.Message.decode Arp.Message.encode Arp.Message.mended
      fun message => ∃ value, message.operation = .ofWord value where
  decode_eq_none_iff := fun _ =>
    Arp.Message.suffices_reader.read_eq_none_iff Arp.Message.takes_reader
  encode_of_decode := fun _ _ => Arp.Message.encode_of_decode
  decode_encode := by
    rintro message rest ⟨value, operation⟩
    apply Arp.Message.decode_encode
    rw [operation, Arp.Operation.toWord_ofWord]

/-- The six formats are read and written without loss.  Reading fails exactly on data
that is shorter than the header.  Any other data has its front read, and this is written
as it was, except that a message of address resolution has 6 and 4 written for the two
lengths that are passed over.  Every header is read back from in front of any bytes,
unless its kind or its operation is an unnamed one with the number of a named one. -/
theorem formats_are_inverse :
    Inverse 14 Ethernet.Header.decode Ethernet.Header.encode id
        (fun header => ∃ value, header.etherType = .ofWord value) ∧
      Inverse 28 Arp.Message.decode Arp.Message.encode
        (fun data => data.take 4 ++ ([6, 4] ++ data.drop 6))
        (fun message => ∃ value, message.operation = .ofWord value) ∧
      Inverse 20 Ipv4.Header.decode Ipv4.Header.encode id (fun _ => True) ∧
      Inverse 8 Icmp.Header.decode Icmp.Header.encode id (fun _ => True) ∧
      Inverse 20 Tcp.Header.decode Tcp.Header.encode id (fun _ => True) ∧
      Inverse 8 Udp.Header.decode Udp.Header.encode id (fun _ => True) ∧
      (∀ kind : EtherType,
        (∃ value, kind = .ofWord value) ↔ kind ≠ .other 0x0800 ∧ kind ≠ .other 0x0806) ∧
      ∀ operation : Arp.Operation,
        (∃ value, operation = .ofWord value) ↔ operation ≠ .other 1 ∧ operation ≠ .other 2 := by
  refine ⟨inverse_ethernet, inverse_arp, ?_, ?_, ?_, ?_, ?_, ?_⟩
  · exact .of_reader Ipv4.Header.suffices_reader Ipv4.Header.takes_reader
      Ipv4.Header.restores_reader Ipv4.Header.length_encode
      fun header rest _ => header.decode_encode rest
  · exact .of_reader Icmp.Header.suffices_reader Icmp.Header.takes_reader
      Icmp.Header.restores_reader Icmp.Header.length_encode
      fun header rest _ => header.decode_encode rest
  · exact .of_reader Tcp.Header.suffices_reader Tcp.Header.takes_reader
      Tcp.Header.restores_reader Tcp.Header.length_encode
      fun header rest _ => header.decode_encode rest
  · exact .of_reader Udp.Header.suffices_reader Udp.Header.takes_reader
      Udp.Header.restores_reader Udp.Header.length_encode
      fun header rest _ => header.decode_encode rest
  · exact fun kind => EtherType.exists_ofWord_iff
  · exact fun operation => Arp.Operation.exists_ofWord_iff

/-- A kind that leaves a named one unnamed is read back with its name. -/
example :
    Ethernet.Header.decode
        (Ethernet.Header.encode ⟨.broadcast, .zero, .other 0x0806⟩) =
      some ⟨.broadcast, .zero, .arp⟩ := by
  decide

end NetStack.Wire
