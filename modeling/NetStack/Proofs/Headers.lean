/-
Module: NetStack.Proofs.Headers
Purpose: Headers read back as they were written, in front of any payload, and are
  written as the bytes that they were read off.
Main exports:
  Wire.Reader.Takes, Wire.Reader.Steady, Wire.Reader.Suffices, Wire.Reader.Restores,
  Ethernet.Header.decode_encode, Ethernet.Header.length_of_decode,
  Arp.Message.decode_encode, Arp.Message.mended, Ipv4.Header.decode_encode,
  Ipv4.Header.decode_eq_none_iff, Ipv4.Header.encode_of_decode,
  Ipv4.Header.computedChecksum_stamp, Icmp.Header.length_of_decode,
  Icmp.Header.decode_encode, Tcp.Header.decode_encode, Udp.Header.decode_encode
-/
import NetStack.Arp.Message
import NetStack.Icmp
import NetStack.Tcp.Header
import NetStack.Udp

namespace NetStack

namespace Wire.Reader

variable {α β : Type}

/-- A reader that takes exactly `count` bytes whenever it reads something. -/
def Takes (reader : Reader α) (count : Nat) : Prop :=
  ∀ data value rest, reader.run data = some (value, rest) → data.length = rest.length + count

theorem takes_byte : Reader.byte.Takes 1 := by
  intro data value rest read
  cases data with
  | nil => cases read
  | cons first others =>
      cases read
      rfl

theorem takes_pure (value : α) : Takes (pure value) 0 := by
  intro data answer rest read
  cases read
  rfl

theorem Takes.bind {first : Reader α} {next : α → Reader β} {count more : Nat}
    (takes : first.Takes count) (onward : ∀ value, (next value).Takes more) :
    (first >>= next).Takes (count + more) := by
  intro data answer rest read
  rw [StateT.run_bind] at read
  obtain ⟨⟨value, middle⟩, begun, finished⟩ := Option.bind_eq_some_iff.mp read
  have earlier := takes data value middle begun
  have later := onward value middle answer rest finished
  omega

theorem takes_word16 : Reader.word16.Takes 2 :=
  takes_byte.bind fun _ => takes_byte.bind fun _ => takes_pure _

theorem takes_mac : Reader.mac.Takes 6 :=
  takes_byte.bind fun _ => takes_byte.bind fun _ => takes_byte.bind fun _ =>
    takes_byte.bind fun _ => takes_byte.bind fun _ => takes_byte.bind fun _ => takes_pure _

/-- Nothing is read off data that is shorter than what is to be read. -/
theorem Takes.length_of_read {reader : Reader α} {count : Nat} (takes : reader.Takes count)
    {data : Bytes} {value : α} (read : reader.read data = some value) : count ≤ data.length := by
  obtain ⟨⟨answer, rest⟩, run, -⟩ := Option.map_eq_some_iff.mp read
  have taken := takes _ _ _ run
  omega

/-- A reader that reads the same when more bytes follow. -/
def Steady (reader : Reader α) : Prop :=
  ∀ data value rest more, reader.run data = some (value, rest) →
    reader.run (data ++ more) = some (value, rest ++ more)

theorem steady_byte : Reader.byte.Steady := by
  intro data value rest more read
  cases data with
  | nil => cases read
  | cons first others =>
      cases read
      rfl

theorem steady_pure (value : α) : Steady (pure value) := by
  intro data answer rest more read
  cases read
  rfl

theorem Steady.bind {first : Reader α} {next : α → Reader β} (steady : first.Steady)
    (onward : ∀ value, (next value).Steady) : (first >>= next).Steady := by
  intro data answer rest more read
  rw [StateT.run_bind] at read ⊢
  obtain ⟨⟨value, middle⟩, begun, finished⟩ := Option.bind_eq_some_iff.mp read
  have earlier := steady data value middle more begun
  have later := onward value middle answer rest more finished
  exact Option.bind_eq_some_iff.mpr ⟨⟨value, middle ++ more⟩, earlier, later⟩

theorem steady_word16 : Reader.word16.Steady :=
  steady_byte.bind fun _ => steady_byte.bind fun _ => steady_pure _

theorem steady_mac : Reader.mac.Steady :=
  steady_byte.bind fun _ => steady_byte.bind fun _ => steady_byte.bind fun _ =>
    steady_byte.bind fun _ => steady_byte.bind fun _ => steady_byte.bind fun _ => steady_pure _

theorem steady_ipv4 : Reader.ipv4.Steady :=
  steady_byte.bind fun _ => steady_byte.bind fun _ => steady_byte.bind fun _ =>
    steady_byte.bind fun _ => steady_pure _

theorem steady_skip (count : Nat) : (Reader.skip count).Steady := by
  induction count with
  | zero => exact steady_pure ()
  | succ count inductiveHypothesis => exact steady_byte.bind fun _ => inductiveHypothesis

/-- What is read off the front of some data is read off the whole of it. -/
theorem Steady.read_of_front {reader : Reader α} (steady : reader.Steady) {front data : Bytes}
    {value : α} (begins : front <+: data) (read : reader.read front = some value) :
    reader.read data = some value := by
  obtain ⟨more, rfl⟩ := begins
  obtain ⟨⟨answer, rest⟩, run, rfl⟩ := Option.map_eq_some_iff.mp read
  exact Option.map_eq_some_iff.mpr ⟨⟨answer, rest ++ more⟩, steady _ _ _ more run, rfl⟩

/-! ### Readers that need no more than they take -/

theorem takes_ipv4 : Reader.ipv4.Takes 4 :=
  takes_byte.bind fun _ => takes_byte.bind fun _ => takes_byte.bind fun _ =>
    takes_byte.bind fun _ => takes_pure _

theorem takes_word32 : Reader.word32.Takes 4 :=
  takes_byte.bind fun _ => takes_byte.bind fun _ => takes_byte.bind fun _ =>
    takes_byte.bind fun _ => takes_pure _

theorem takes_skip (count : Nat) : (Reader.skip count).Takes count := by
  induction count with
  | zero => exact takes_pure ()
  | succ count inductiveHypothesis =>
      have onward : (Reader.skip (count + 1)).Takes (1 + count) :=
        takes_byte.bind fun _ => inductiveHypothesis
      rwa [Nat.add_comm 1] at onward

/-- A reader that reads something off any `count` bytes. -/
def Suffices (reader : Reader α) (count : Nat) : Prop :=
  ∀ data : Bytes, count ≤ data.length → ∃ value rest, reader.run data = some (value, rest)

theorem suffices_byte : Reader.byte.Suffices 1 := by
  intro data long
  cases data with
  | nil => simp at long
  | cons first others => exact ⟨first, others, rfl⟩

theorem suffices_pure (value : α) : Suffices (pure value) 0 :=
  fun data _ => ⟨value, data, rfl⟩

theorem Suffices.bind {first : Reader α} {next : α → Reader β} {count more : Nat}
    (enough : first.Suffices count) (takes : first.Takes count)
    (onward : ∀ value, (next value).Suffices more) : (first >>= next).Suffices (count + more) := by
  intro data long
  obtain ⟨value, middle, begun⟩ := enough data (by omega)
  have taken := takes data value middle begun
  obtain ⟨answer, rest, finished⟩ := onward value middle (by omega)
  refine ⟨answer, rest, ?_⟩
  rw [StateT.run_bind]
  exact Option.bind_eq_some_iff.mpr ⟨⟨value, middle⟩, begun, finished⟩

theorem suffices_word16 : Reader.word16.Suffices 2 :=
  suffices_byte.bind takes_byte fun _ => suffices_byte.bind takes_byte fun _ => suffices_pure _

theorem suffices_ipv4 : Reader.ipv4.Suffices 4 :=
  suffices_byte.bind takes_byte fun _ => suffices_byte.bind takes_byte fun _ =>
    suffices_byte.bind takes_byte fun _ => suffices_byte.bind takes_byte fun _ => suffices_pure _

theorem suffices_word32 : Reader.word32.Suffices 4 :=
  suffices_byte.bind takes_byte fun _ => suffices_byte.bind takes_byte fun _ =>
    suffices_byte.bind takes_byte fun _ => suffices_byte.bind takes_byte fun _ => suffices_pure _

theorem suffices_mac : Reader.mac.Suffices 6 :=
  suffices_byte.bind takes_byte fun _ => suffices_byte.bind takes_byte fun _ =>
    suffices_byte.bind takes_byte fun _ => suffices_byte.bind takes_byte fun _ =>
      suffices_byte.bind takes_byte fun _ => suffices_byte.bind takes_byte fun _ =>
        suffices_pure _

theorem suffices_skip (count : Nat) : (Reader.skip count).Suffices count := by
  induction count with
  | zero => exact suffices_pure ()
  | succ count inductiveHypothesis =>
      have onward : (Reader.skip (count + 1)).Suffices (1 + count) :=
        suffices_byte.bind takes_byte fun _ => inductiveHypothesis
      rwa [Nat.add_comm 1] at onward

/-- A steady reader reads the same off data that is cut behind what it needs. -/
theorem Steady.read_take {reader : Reader α} {count kept : Nat} (steady : reader.Steady)
    (enough : reader.Suffices count) (held : count ≤ kept) (data : Bytes) :
    reader.read (data.take kept) = reader.read data := by
  by_cases short : data.length ≤ kept
  · rw [List.take_of_length_le short]
  · have long : count ≤ (data.take kept).length := by
      rw [List.length_take]
      omega
    obtain ⟨value, rest, run⟩ := enough (data.take kept) long
    have front : reader.read (data.take kept) = some value :=
      Option.map_eq_some_iff.mpr ⟨_, run, rfl⟩
    rw [front, steady.read_of_front (List.take_prefix _ _) front]

/-- Such a reader fails only where the bytes run out. -/
theorem Suffices.read_eq_none_iff {reader : Reader α} {count : Nat} (enough : reader.Suffices count)
    (takes : reader.Takes count) {data : Bytes} :
    reader.read data = none ↔ data.length < count := by
  constructor
  · intro missing
    apply Nat.lt_of_not_le
    intro long
    obtain ⟨value, rest, run⟩ := enough data long
    simp [read, run] at missing
  · intro short
    apply Option.eq_none_iff_forall_ne_some.mpr
    intro value found
    have long := takes.length_of_read found
    omega

/-! ### What was read is what was written -/

/-- A reader whose answer is written as the bytes that it was read off, behind those
that were read `before`. -/
def Restores (reader : Reader α) (before : Bytes) (write : α → Bytes) : Prop :=
  ∀ data value rest, reader.run data = some (value, rest) → before ++ data = write value ++ rest

theorem restores_pure {before : Bytes} {value : α} {write : α → Bytes}
    (same : before = write value) : Restores (pure value) before write := by
  intro data answer rest read
  cases read
  rw [same]

theorem Restores.bind {first : Reader α} {next : α → Reader β} {before : Bytes}
    {field : α → Bytes} {write : β → Bytes} (restores : first.Restores [] field)
    (onward : ∀ value, (next value).Restores (before ++ field value) write) :
    (first >>= next).Restores before write := by
  intro data answer rest read
  rw [StateT.run_bind] at read
  obtain ⟨⟨value, middle⟩, begun, finished⟩ := Option.bind_eq_some_iff.mp read
  have earlier : data = field value ++ middle := restores data value middle begun
  have later := onward value middle answer rest finished
  rw [earlier, ← List.append_assoc]
  exact later

theorem restores_byte : Reader.byte.Restores [] fun byte => [byte] := by
  intro data value rest read
  cases data with
  | nil => cases read
  | cons first others =>
      cases read
      rfl

theorem restores_word16 : Reader.word16.Restores [] Wire.word16 :=
  restores_byte.bind fun high => restores_byte.bind fun low =>
    restores_pure (word16_join high low).symm

theorem restores_ipv4 : Reader.ipv4.Restores [] Ipv4Address.toBytes :=
  restores_byte.bind fun _ => restores_byte.bind fun _ => restores_byte.bind fun _ =>
    restores_byte.bind fun _ => restores_pure rfl

theorem restores_word32 : Reader.word32.Restores [] Wire.word32 :=
  restores_byte.bind fun first => restores_byte.bind fun second => restores_byte.bind fun third =>
    restores_byte.bind fun fourth => restores_pure (word32_join first second third fourth).symm

theorem restores_mac : Reader.mac.Restores [] MacAddress.toBytes :=
  restores_byte.bind fun _ => restores_byte.bind fun _ => restores_byte.bind fun _ =>
    restores_byte.bind fun _ => restores_byte.bind fun _ => restores_byte.bind fun _ =>
      restores_pure rfl

/-- Bytes that are passed over are gone, whatever they were. -/
theorem drop_of_run_skip {count : Nat} {data rest : Bytes} {answer : Unit}
    (passes : (Reader.skip count).run data = some (answer, rest)) : rest = data.drop count := by
  have taken := takes_skip count data answer rest passes
  have split : data = data.take count ++ data.drop count := (List.take_append_drop _ _).symm
  rw [split, run_skip (data.drop count) count (data.take count) (by rw [List.length_take]; omega)]
    at passes
  cases passes
  rfl

/-- Behind bytes that are passed over, what was read is written as it was read behind
any bytes `written` in their place. -/
theorem Restores.behind_skip {next : Unit → Reader β} {before : Bytes} {count : Nat}
    {write : β → Bytes} (written : Bytes)
    (onward : ∀ passed, (next passed).Restores (before ++ written) write) {data rest : Bytes}
    {value : β} (read : (Reader.skip count >>= next).run data = some (value, rest)) :
    before ++ (written ++ data.drop count) = write value ++ rest := by
  rw [StateT.run_bind] at read
  obtain ⟨⟨passed, middle⟩, begun, finished⟩ := Option.bind_eq_some_iff.mp read
  rw [← drop_of_run_skip begun, ← List.append_assoc]
  exact onward passed middle value rest finished

/-- What was read lies at the front of the data, as it is written. -/
theorem Restores.write_of_read {reader : Reader α} {write : α → Bytes}
    (restores : reader.Restores [] write) {data : Bytes} {value : α}
    (found : reader.read data = some value) : write value = data.take (write value).length := by
  obtain ⟨⟨answer, rest⟩, run, rfl⟩ := Option.map_eq_some_iff.mp found
  have whole : data = write answer ++ rest := restores _ _ _ run
  rw [whole, List.take_left]

/-- So data that is long enough starts with something that was written. -/
theorem Restores.exists_write {reader : Reader α} {count : Nat} {write : α → Bytes}
    (restores : reader.Restores [] write) (enough : reader.Suffices count) {data : Bytes}
    (long : count ≤ data.length) : ∃ value rest, data = write value ++ rest := by
  obtain ⟨value, rest, run⟩ := enough data long
  exact ⟨value, rest, restores _ _ _ run⟩

end Wire.Reader

/-- A kind has the number that it was read from. -/
theorem EtherType.toWord_ofWord (value : UInt16) : (EtherType.ofWord value).toWord = value := by
  unfold ofWord
  split
  · next named => exact named.symm
  · split
    · next named => exact named.symm
    · rfl

/-- A kind is read from some number unless it leaves a named one unnamed. -/
theorem EtherType.exists_ofWord_iff {kind : EtherType} :
    (∃ value, kind = .ofWord value) ↔ kind ≠ .other 0x0800 ∧ kind ≠ .other 0x0806 := by
  constructor
  · rintro ⟨value, rfl⟩
    unfold ofWord
    grind
  · intro unnamed
    refine ⟨kind.toWord, ?_⟩
    cases kind <;> grind [toWord, ofWord]

namespace Ethernet.Header

theorem takes_reader : reader.Takes headerLength :=
  Wire.Reader.takes_mac.bind fun _ => Wire.Reader.takes_mac.bind fun _ =>
    Wire.Reader.takes_word16.bind fun _ => Wire.Reader.takes_pure _

theorem length_of_decode {frame : Bytes} {header : Ethernet.Header}
    (decoded : decode frame = some header) : headerLength ≤ frame.length :=
  takes_reader.length_of_read decoded

theorem steady_reader : reader.Steady :=
  Wire.Reader.steady_mac.bind fun _ => Wire.Reader.steady_mac.bind fun _ =>
    Wire.Reader.steady_word16.bind fun _ => Wire.Reader.steady_pure _

theorem suffices_reader : reader.Suffices headerLength :=
  open Wire.Reader in
  suffices_mac.bind takes_mac fun _ => suffices_mac.bind takes_mac fun _ =>
    suffices_word16.bind takes_word16 fun _ => suffices_pure _

theorem restores_reader : reader.Restores [] encode :=
  open Wire.Reader in
  restores_mac.bind fun _ => restores_mac.bind fun _ => restores_word16.bind fun kind =>
    restores_pure (by simp [encode, EtherType.toWord_ofWord])

@[simp] theorem length_encode (header : Ethernet.Header) :
    header.encode.length = headerLength := rfl

theorem exists_decode {frame : Bytes} (long : headerLength ≤ frame.length) :
    ∃ header, decode frame = some header := by
  obtain ⟨header, rest, run⟩ := suffices_reader frame long
  exact ⟨header, Option.map_eq_some_iff.mpr ⟨_, run, rfl⟩⟩

/-- An unnamed kind reads back as it was written when its number is not the
number of a named one. -/
theorem decode_encode {header : Ethernet.Header} (payload : Bytes)
    (named : EtherType.ofWord header.etherType.toWord = header.etherType) :
    decode (header.encode ++ payload) = some header := by
  unfold decode Wire.Reader.read reader encode
  simp only [List.append_assoc, StateT.run_bind, Wire.Reader.run_mac, Wire.Reader.run_word16,
    Option.bind_eq_bind, Option.bind_some, StateT.run_pure]
  simp [named]

end Ethernet.Header

/-- An operation has the number that it was read from. -/
theorem Arp.Operation.toWord_ofWord (value : UInt16) :
    (Arp.Operation.ofWord value).toWord = value := by
  unfold ofWord
  split
  · next named => exact named.symm
  · split
    · next named => exact named.symm
    · rfl

/-- An operation is read from some number unless it leaves a named one unnamed. -/
theorem Arp.Operation.exists_ofWord_iff {operation : Arp.Operation} :
    (∃ value, operation = .ofWord value) ↔ operation ≠ .other 1 ∧ operation ≠ .other 2 := by
  constructor
  · rintro ⟨value, rfl⟩
    unfold ofWord
    grind
  · intro unnamed
    refine ⟨operation.toWord, ?_⟩
    cases operation <;> grind [toWord, ofWord]

namespace Arp.Message

theorem takes_reader : reader.Takes messageLength :=
  open Wire.Reader in
  takes_word16.bind fun _ => takes_word16.bind fun _ => (takes_skip 2).bind fun _ =>
    takes_word16.bind fun _ => takes_mac.bind fun _ => takes_ipv4.bind fun _ =>
      takes_mac.bind fun _ => takes_ipv4.bind fun _ => takes_pure _

theorem steady_reader : reader.Steady :=
  open Wire.Reader in
  steady_word16.bind fun _ => steady_word16.bind fun _ => (steady_skip 2).bind fun _ =>
    steady_word16.bind fun _ => steady_mac.bind fun _ => steady_ipv4.bind fun _ =>
      steady_mac.bind fun _ => steady_ipv4.bind fun _ => steady_pure _

theorem suffices_reader : reader.Suffices messageLength :=
  open Wire.Reader in
  suffices_word16.bind takes_word16 fun _ => suffices_word16.bind takes_word16 fun _ =>
    (suffices_skip 2).bind (takes_skip 2) fun _ => suffices_word16.bind takes_word16 fun _ =>
      suffices_mac.bind takes_mac fun _ => suffices_ipv4.bind takes_ipv4 fun _ =>
        suffices_mac.bind takes_mac fun _ => suffices_ipv4.bind takes_ipv4 fun _ =>
          suffices_pure _

@[simp] theorem length_encode (message : Message) : message.encode.length = messageLength := rfl

/-- The data with the address lengths of Ethernet and IPv4 in the place of its own. -/
def mended (data : Bytes) : Bytes :=
  data.take 4 ++ ([6, 4] ++ data.drop 6)

/-- A message that was read is written as the bytes that it was read off, but for the
address lengths, which were passed over. -/
theorem mended_of_run {data rest : Bytes} {message : Message}
    (read : reader.run data = some (message, rest)) : mended data = message.encode ++ rest := by
  unfold reader at read
  rw [StateT.run_bind] at read
  obtain ⟨⟨hardware, behind⟩, first, read⟩ := Option.bind_eq_some_iff.mp read
  rw [StateT.run_bind] at read
  obtain ⟨⟨protocol, remaining⟩, second, read⟩ := Option.bind_eq_some_iff.mp read
  have front : data = Wire.word16 hardware ++ behind := Wire.Reader.restores_word16 _ _ _ first
  have next : behind = Wire.word16 protocol ++ remaining :=
    Wire.Reader.restores_word16 _ _ _ second
  have back : (Wire.word16 hardware ++ Wire.word16 protocol) ++ ([6, 4] ++ remaining.drop 2) =
      message.encode ++ rest := by
    refine Wire.Reader.Restores.behind_skip [6, 4] (fun _ => ?_) read
    open Wire.Reader in
    exact restores_word16.bind fun operation => restores_mac.bind fun _ =>
      restores_ipv4.bind fun _ => restores_mac.bind fun _ => restores_ipv4.bind fun _ =>
        restores_pure (by simp [encode, Operation.toWord_ofWord])
  rw [← back, front, next]
  rfl

/-- So it is written as the front of that. -/
theorem encode_of_decode {data : Bytes} {message : Message}
    (decoded : decode data = some message) : message.encode = (mended data).take messageLength := by
  obtain ⟨⟨answer, rest⟩, read, rfl⟩ := Option.map_eq_some_iff.mp decoded
  rw [mended_of_run read]
  exact (List.take_left' (length_encode answer)).symm

/-- Here too, an unnamed operation must not have the number of a named one. -/
theorem decode_encode {message : Message} (rest : Bytes)
    (named : Operation.ofWord message.operation.toWord = message.operation) :
    decode (message.encode ++ rest) = some message := by
  have passed (more : Bytes) : (Wire.Reader.skip 2).run ([6, 4] ++ more) = some ((), more) :=
    Wire.Reader.run_skip more 2 [6, 4] rfl
  unfold decode Wire.Reader.read reader encode
  simp only [List.append_assoc, StateT.run_bind, Wire.Reader.run_mac, Wire.Reader.run_word16,
    Wire.Reader.run_ipv4, passed, Option.bind_eq_bind, Option.bind_some, StateT.run_pure]
  simp [named]

end Arp.Message

namespace Ipv4.Header

theorem steady_reader : reader.Steady :=
  Wire.Reader.steady_byte.bind fun _ => Wire.Reader.steady_byte.bind fun _ =>
    Wire.Reader.steady_word16.bind fun _ => Wire.Reader.steady_word16.bind fun _ =>
      Wire.Reader.steady_word16.bind fun _ => Wire.Reader.steady_byte.bind fun _ =>
        Wire.Reader.steady_byte.bind fun _ => Wire.Reader.steady_word16.bind fun _ =>
          Wire.Reader.steady_ipv4.bind fun _ => Wire.Reader.steady_ipv4.bind fun _ =>
            Wire.Reader.steady_pure _

theorem takes_reader : reader.Takes headerLength :=
  Wire.Reader.takes_byte.bind fun _ => Wire.Reader.takes_byte.bind fun _ =>
    Wire.Reader.takes_word16.bind fun _ => Wire.Reader.takes_word16.bind fun _ =>
      Wire.Reader.takes_word16.bind fun _ => Wire.Reader.takes_byte.bind fun _ =>
        Wire.Reader.takes_byte.bind fun _ => Wire.Reader.takes_word16.bind fun _ =>
          Wire.Reader.takes_ipv4.bind fun _ => Wire.Reader.takes_ipv4.bind fun _ =>
            Wire.Reader.takes_pure _

theorem suffices_reader : reader.Suffices headerLength :=
  open Wire.Reader in
  suffices_byte.bind takes_byte fun _ => suffices_byte.bind takes_byte fun _ =>
    suffices_word16.bind takes_word16 fun _ => suffices_word16.bind takes_word16 fun _ =>
      suffices_word16.bind takes_word16 fun _ => suffices_byte.bind takes_byte fun _ =>
        suffices_byte.bind takes_byte fun _ => suffices_word16.bind takes_word16 fun _ =>
          suffices_ipv4.bind takes_ipv4 fun _ => suffices_ipv4.bind takes_ipv4 fun _ =>
            suffices_pure _

theorem restores_reader : reader.Restores [] encode :=
  open Wire.Reader in
  restores_byte.bind fun _ => restores_byte.bind fun _ => restores_word16.bind fun _ =>
    restores_word16.bind fun _ => restores_word16.bind fun _ => restores_byte.bind fun _ =>
      restores_byte.bind fun _ => restores_word16.bind fun _ => restores_ipv4.bind fun _ =>
        restores_ipv4.bind fun _ => restores_pure rfl

@[simp] theorem length_encode (header : Ipv4.Header) :
    header.encode.length = headerLength := rfl

theorem decode_eq_none_iff {packet : Bytes} :
    decode packet = none ↔ packet.length < headerLength :=
  suffices_reader.read_eq_none_iff takes_reader

/-- A header that was read is written as the bytes that it was read off. -/
theorem encode_of_decode {packet : Bytes} {header : Ipv4.Header}
    (decoded : decode packet = some header) : header.encode = packet.take headerLength :=
  restores_reader.write_of_read decoded

theorem decode_encode (header : Ipv4.Header) (payload : Bytes) :
    decode (header.encode ++ payload) = some header := by
  unfold decode Wire.Reader.read reader encode
  simp

/-- The checksum does not depend on what the checksum field holds. -/
theorem computedChecksum_stamp (header : Ipv4.Header) (identification : UInt16) :
    (header.stamp identification).computedChecksum = (header.stamp identification).checksum := rfl

end Ipv4.Header

namespace Icmp.Header

theorem takes_reader : reader.Takes headerLength :=
  Wire.Reader.takes_byte.bind fun _ => Wire.Reader.takes_byte.bind fun _ =>
    Wire.Reader.takes_word16.bind fun _ => Wire.Reader.takes_word16.bind fun _ =>
      Wire.Reader.takes_word16.bind fun _ => Wire.Reader.takes_pure _

theorem suffices_reader : reader.Suffices headerLength :=
  open Wire.Reader in
  suffices_byte.bind takes_byte fun _ => suffices_byte.bind takes_byte fun _ =>
    suffices_word16.bind takes_word16 fun _ => suffices_word16.bind takes_word16 fun _ =>
      suffices_word16.bind takes_word16 fun _ => suffices_pure _

theorem restores_reader : reader.Restores [] encode :=
  open Wire.Reader in
  restores_byte.bind fun _ => restores_byte.bind fun _ => restores_word16.bind fun _ =>
    restores_word16.bind fun _ => restores_word16.bind fun _ => restores_pure rfl

theorem length_of_decode {message : Bytes} {header : Icmp.Header}
    (decoded : decode message = some header) : headerLength ≤ message.length :=
  takes_reader.length_of_read decoded

@[simp] theorem length_encode (header : Icmp.Header) :
    header.encode.length = headerLength := rfl

theorem decode_encode (header : Icmp.Header) (data : Bytes) :
    decode (header.encode ++ data) = some header := by
  unfold decode Wire.Reader.read reader encode
  simp

end Icmp.Header

namespace Tcp.Header

theorem takes_reader : reader.Takes headerLength :=
  open Wire.Reader in
  takes_word16.bind fun _ => takes_word16.bind fun _ => takes_word32.bind fun _ =>
    takes_word32.bind fun _ => takes_byte.bind fun _ => takes_byte.bind fun _ =>
      takes_word16.bind fun _ => takes_word16.bind fun _ => takes_word16.bind fun _ =>
        takes_pure _

theorem suffices_reader : reader.Suffices headerLength :=
  open Wire.Reader in
  suffices_word16.bind takes_word16 fun _ => suffices_word16.bind takes_word16 fun _ =>
    suffices_word32.bind takes_word32 fun _ => suffices_word32.bind takes_word32 fun _ =>
      suffices_byte.bind takes_byte fun _ => suffices_byte.bind takes_byte fun _ =>
        suffices_word16.bind takes_word16 fun _ => suffices_word16.bind takes_word16 fun _ =>
          suffices_word16.bind takes_word16 fun _ => suffices_pure _

theorem restores_reader : reader.Restores [] encode :=
  open Wire.Reader in
  restores_word16.bind fun _ => restores_word16.bind fun _ => restores_word32.bind fun _ =>
    restores_word32.bind fun _ => restores_byte.bind fun _ => restores_byte.bind fun _ =>
      restores_word16.bind fun _ => restores_word16.bind fun _ => restores_word16.bind fun _ =>
        restores_pure rfl

@[simp] theorem length_encode (header : Tcp.Header) :
    header.encode.length = headerLength := rfl

theorem decode_encode (header : Tcp.Header) (payload : Bytes) :
    decode (header.encode ++ payload) = some header := by
  unfold decode Wire.Reader.read reader encode
  simp

end Tcp.Header

namespace Udp.Header

theorem takes_reader : reader.Takes headerLength :=
  open Wire.Reader in
  takes_word16.bind fun _ => takes_word16.bind fun _ => takes_word16.bind fun _ =>
    takes_word16.bind fun _ => takes_pure _

theorem suffices_reader : reader.Suffices headerLength :=
  open Wire.Reader in
  suffices_word16.bind takes_word16 fun _ => suffices_word16.bind takes_word16 fun _ =>
    suffices_word16.bind takes_word16 fun _ => suffices_word16.bind takes_word16 fun _ =>
      suffices_pure _

theorem restores_reader : reader.Restores [] encode :=
  open Wire.Reader in
  restores_word16.bind fun _ => restores_word16.bind fun _ => restores_word16.bind fun _ =>
    restores_word16.bind fun _ => restores_pure rfl

@[simp] theorem length_encode (header : Udp.Header) :
    header.encode.length = headerLength := rfl

theorem decode_encode (header : Udp.Header) (payload : Bytes) :
    decode (header.encode ++ payload) = some header := by
  unfold decode Wire.Reader.read reader encode
  simp

end Udp.Header

end NetStack
