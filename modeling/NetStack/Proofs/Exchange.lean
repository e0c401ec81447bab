/-
Module: NetStack.Proofs.Exchange
Purpose: A whole request over one connection, cut into segments in any way, and
  everything that the stack answers to it.
Main exports:
  Exchange, Exchange.script, Exchange.answers, Exchange.Stands,
  Exchange.Stands.takes_all, Setup.exchange_completes
-/
import NetStack.Proofs.Dialogue
import NetStack.Proofs.Http.Response

namespace NetStack

open Tcp (Segment Message Reaction)
open Interface (Answered Dialogue)

/-!
The client opens the connection, sends its request in as many pieces as it likes,
the last one with a push, and closes after the response.  Each of its segments
goes on from the numbers of the one before, and each is answered at once.  What
is answered to the push depends on the whole request only, and not on how it was
cut.
-/

/-- One request over one connection. -/
structure Exchange where
  client : Endpoint
  server : Endpoint
  /-- The sequence number of the opening segment. -/
  number : UInt32
  /-- The acknowledgment field of the opening segment, to which nobody pays
  attention. -/
  unread : UInt32
  /-- The data sent before the push. -/
  chunks : List Bytes
  /-- The data sent with the push. -/
  pushed : Bytes

namespace Exchange

/-- Everything that the client sends. -/
def request (exchange : Exchange) : Bytes :=
  exchange.chunks.flatten ++ exchange.pushed

/-- The response to it. -/
def reply (exchange : Exchange) : Bytes :=
  (Http.respond exchange.request (.zeros Tcp.maxPayload)).written

/-- A segment from the client. -/
def asks (exchange : Exchange) (flags : Tcp.Flags) (sequence acknowledgment : UInt32)
    (payload : Bytes) : Message where
  source := exchange.client
  destination := exchange.server
  flags := flags
  sequence := sequence
  acknowledgment := acknowledgment
  payload := payload

/-- A segment to the client. -/
def tells (exchange : Exchange) (flags : Tcp.Flags) (sequence acknowledgment : UInt32)
    (payload : Bytes) : Message where
  source := exchange.server
  destination := exchange.client
  flags := flags
  sequence := sequence
  acknowledgment := acknowledgment
  payload := payload

/-- The segments with the data before the push, of which `taken` bytes have gone
before. -/
def dataFrom (exchange : Exchange) (taken : Nat) : List Bytes → List Message
  | [] => []
  | chunk :: chunks =>
      exchange.asks .ack (exchange.number + 1 + UInt32.ofNat taken) (exchange.number + 1) chunk ::
        exchange.dataFrom (taken + chunk.length) chunks

/-- Everything that the client sends before the push, in order. -/
def upload (exchange : Exchange) : List Message :=
  exchange.asks .syn exchange.number exchange.unread [] ::
    exchange.asks .ack (exchange.number + 1) (exchange.number + 1) [] ::
      exchange.dataFrom 0 exchange.chunks

/-- Everything that the client sends, in order. -/
def script (exchange : Exchange) : List Message :=
  exchange.upload ++
    [exchange.asks (.ack ||| .psh)
        (exchange.number + 1 + UInt32.ofNat exchange.chunks.flatten.length)
        (exchange.number + 1) exchange.pushed,
      exchange.asks (.ack ||| .fin)
        (exchange.number + 1 + UInt32.ofNat exchange.request.length)
        (exchange.number + 2 + UInt32.ofNat exchange.reply.length) []]

/-- The acknowledgments of the data before the push, each of all bytes so far. -/
def acknowledgmentsFrom (exchange : Exchange) (taken : Nat) : List Bytes → List Message
  | [] => []
  | chunk :: chunks =>
      exchange.tells .ack (exchange.number + 1)
          (exchange.number + 1 + UInt32.ofNat (taken + chunk.length)) [] ::
        exchange.acknowledgmentsFrom (taken + chunk.length) chunks

/-- Everything that the client is told before the push, in order. -/
def confirmations (exchange : Exchange) : List Message :=
  exchange.tells (.syn ||| .ack) exchange.number (exchange.number + 1) [] ::
    exchange.tells .ack (exchange.number + 1) (exchange.number + 1) [] ::
      exchange.acknowledgmentsFrom 0 exchange.chunks

/-- Everything that the client is told, in order. -/
def answers (exchange : Exchange) : List Message :=
  exchange.confirmations ++
    [exchange.tells (.ack ||| .psh ||| .fin) (exchange.number + 1)
        (exchange.number + 1 + UInt32.ofNat exchange.request.length) exchange.reply,
      exchange.tells .ack (exchange.number + 2 + UInt32.ofNat exchange.reply.length)
        (exchange.number + 2 + UInt32.ofNat exchange.request.length) []]

/-- Where the exchange stands at the server's side. -/
structure Stands (exchange : Exchange) (interface : Interface) (index : Fin Tcp.poolSize)
    (state : Tcp.State) (sequence acknowledgment : UInt32) (received : Bytes) : Prop where
  attentive : interface.Attentive
  server : exchange.server = ⟨interface.config.address, Tcp.Pool.localPort index⟩
  sound : (interface.pool.get index).Sound
  state : (interface.pool.get index).state = state
  guest : (interface.pool.get index).guest = exchange.client
  sequence : (interface.pool.get index).sequence = sequence
  acknowledgment : (interface.pool.get index).acknowledgment = acknowledgment
  received : (interface.pool.get index).received = received

private theorem add_two (number count : UInt32) :
    number + 1 + (count + 1) = number + 2 + count := by
  rw [UInt32.add_comm count 1, ← UInt32.add_assoc, UInt32.add_assoc number 1 1]
  rfl

variable {exchange : Exchange} {interface : Interface} {index : Fin Tcp.poolSize} {frame : Bytes}

/-- A segment from the client reaches the channel, whatever answer is due to it is
told, and the exchange stands where the channel stands next. -/
theorem turn (attentive : interface.Attentive)
    (server : exchange.server = ⟨interface.config.address, Tcp.Pool.localPort index⟩)
    (sound : (interface.pool.get index).Sound) (fits : frame.length ≤ packetSize)
    {flags : Tcp.Flags} {sequence acknowledgment : UInt32} {payload : Bytes}
    (read : Message.ofFrame? frame =
      some (exchange.asks flags sequence acknowledgment payload)) :
    ∃ segment : Segment,
      exchange.client = ⟨segment.sender, segment.header.sourcePort⟩ ∧
      segment.header.flags = flags ∧ segment.header.sequence = sequence ∧
      segment.header.acknowledgment = acknowledgment ∧ segment.payload = payload ∧
      ∀ {reaction : Reaction} {answer : Tcp.Answer},
        Tcp.Channel.Reacts (interface.pool.get index) segment reaction →
        reaction.answer? = some answer →
        reaction.staged.guest = exchange.client →
        reaction.next.guest = exchange.client →
        ∃ after,
          Answered interface frame
            (exchange.tells answer.flags reaction.staged.sequence reaction.staged.acknowledgment
              (answer.payload.take Tcp.maxPayload)) after ∧
          exchange.Stands after index reaction.next.state reaction.next.sequence
            reaction.next.acknowledgment reaction.next.received := by
  obtain ⟨segment, carried, source, port, sameFlags, sameSequence, sameAcknowledgment,
    samePayload⟩ := Message.segment_of_ofFrame? read
  have addressed : Tcp.Pool.localPort index = segment.header.destinationPort := by
    rw [← port]
    show Tcp.Pool.localPort index = exchange.server.port
    rw [server]
  refine ⟨segment, source, sameFlags.symm, sameSequence.symm, sameAcknowledgment.symm,
    samePayload.symm, ?_⟩
  intro reaction answer how due guest nextGuest
  obtain ⟨after, answered, still, same, becomes⟩ :=
    attentive.turn fits carried addressed how due
  have kept := how.sound true sound
  rw [Reaction.channelAfter_true] at kept
  rw [how.staged_host_eq, attentive.bound index, guest] at answered
  refine ⟨after, ?_, still, ?_, ?_, ?_, ?_, ?_, ?_, ?_⟩
  · rw [tells, server]
    exact answered
  · rw [same, server]
  · rw [becomes]
    exact kept
  · rw [becomes]
  · rw [becomes, nextGuest]
  · rw [becomes]
  · rw [becomes]
  · rw [becomes]

/-- A segment that goes on where the exchange stands is expected. -/
theorem Stands.expects {state : Tcp.State} {sequence acknowledgment : UInt32} {received : Bytes}
    (stands : exchange.Stands interface index state sequence acknowledgment received)
    {segment : Segment} {required : Tcp.Flags}
    (client : exchange.client = ⟨segment.sender, segment.header.sourcePort⟩)
    (flagged : segment.header.flags.contains required = true)
    (next : segment.header.sequence = acknowledgment)
    (acknowledged : segment.header.acknowledgment = sequence) :
    (interface.pool.get index).expect segment required = .ok () := by
  refine Tcp.Channel.expect_eq_ok flagged ?_ ?_ ?_
  · rw [stands.guest, client]
  · rw [next, stands.acknowledgment]
  · rw [acknowledged, stands.sequence]

/-- The opening segment is answered with the numbers of the client. -/
theorem opens (attentive : interface.Attentive)
    (server : exchange.server = ⟨interface.config.address, Tcp.Pool.localPort index⟩)
    (sound : (interface.pool.get index).Sound)
    (listening : (interface.pool.get index).state = .listen) (fits : frame.length ≤ packetSize)
    (read : Message.ofFrame? frame =
      some (exchange.asks .syn exchange.number exchange.unread [])) :
    ∃ after,
      Answered interface frame
        (exchange.tells (.syn ||| .ack) exchange.number (exchange.number + 1) []) after ∧
      exchange.Stands after index .synReceived (exchange.number + 1) (exchange.number + 1) [] := by
  obtain ⟨segment, client, flags, sequence, -, -, answered⟩ :=
    turn attentive server sound fits read
  have how : Tcp.Channel.Reacts (interface.pool.get index) segment _ :=
    .opens listening (by rw [flags]; decide) (by rw [flags]; decide)
  have empty : (interface.pool.get index).received = [] := by
    rw [← List.length_eq_zero_iff, sound.length_received]
    exact sound.idle (by rw [listening]; decide)
  obtain ⟨after, told, stands⟩ := answered how rfl client.symm client.symm
  rw [← sequence]
  refine ⟨after, told, ?_⟩
  rw [← empty]
  exact stands

/-- The confirmation is confirmed, and the connection stands. -/
theorem Stands.establishes
    (stands : exchange.Stands interface index .synReceived (exchange.number + 1)
      (exchange.number + 1) [])
    (fits : frame.length ≤ packetSize)
    (read : Message.ofFrame? frame =
      some (exchange.asks .ack (exchange.number + 1) (exchange.number + 1) [])) :
    ∃ after,
      Answered interface frame
        (exchange.tells .ack (exchange.number + 1) (exchange.number + 1) []) after ∧
      exchange.Stands after index .established (exchange.number + 1) (exchange.number + 1) [] := by
  obtain ⟨segment, client, flags, sequence, acknowledgment, -, answered⟩ :=
    turn stands.attentive stands.server stands.sound fits read
  have how := Tcp.Channel.Reacts.establishes stands.state
    (stands.expects client (by rw [flags]; decide) sequence acknowledgment)
  obtain ⟨after, told, later⟩ := answered how rfl stands.guest stands.guest
  dsimp only [Reaction.control] at told later
  rw [stands.sequence, stands.acknowledgment] at told later
  refine ⟨after, told, ?_⟩
  rw [← stands.received]
  exact later

/-- Data that leaves a byte of the window free is added to what was received. -/
theorem Stands.appends {sequence acknowledgment : UInt32} {taken data : Bytes}
    (stands : exchange.Stands interface index .established sequence acknowledgment taken)
    {segment : Segment} (payload : segment.payload = data)
    (room : taken.length + data.length < Tcp.windowSize) :
    ∃ window, (interface.pool.get index).window.append segment.payload = .ok window ∧
      window.received = taken ++ data := by
  have fits : (interface.pool.get index).window.fill + segment.payload.length <
      Tcp.windowSize := by
    rw [← stands.sound.length_received, stands.received, payload]
    exact room
  obtain ⟨window, appended, -, -, longer, -⟩ :=
    Tcp.ReceiveWindow.append_fits stands.sound.sized fits
  refine ⟨window, appended, ?_⟩
  rw [longer, payload]
  exact congrArg (· ++ data) stands.received

/-- Data that fits is acknowledged, and is what the channel received last. -/
theorem Stands.takes {taken chunk : Bytes}
    (stands : exchange.Stands interface index .established (exchange.number + 1)
      (exchange.number + 1 + UInt32.ofNat taken.length) taken)
    (loaded : chunk ≠ []) (room : taken.length + chunk.length < Tcp.windowSize)
    (fits : frame.length ≤ packetSize)
    (read : Message.ofFrame? frame =
      some (exchange.asks .ack (exchange.number + 1 + UInt32.ofNat taken.length)
        (exchange.number + 1) chunk)) :
    ∃ after,
      Answered interface frame
        (exchange.tells .ack (exchange.number + 1)
          (exchange.number + 1 + UInt32.ofNat (taken ++ chunk).length) []) after ∧
      exchange.Stands after index .established (exchange.number + 1)
        (exchange.number + 1 + UInt32.ofNat (taken ++ chunk).length) (taken ++ chunk) := by
  obtain ⟨segment, client, flags, sequence, acknowledgment, payload, answered⟩ :=
    turn stands.attentive stands.server stands.sound fits read
  obtain ⟨window, appended, received⟩ := stands.appends payload room
  have counted : exchange.number + 1 + UInt32.ofNat taken.length +
      UInt32.ofNat segment.payload.length =
        exchange.number + 1 + UInt32.ofNat (taken ++ chunk).length := by
    rw [payload, List.length_append, UInt32.ofNat_add, UInt32.add_assoc]
  have how := Tcp.Channel.Reacts.takes stands.state
    (stands.expects client (by rw [flags]; decide) sequence acknowledgment) appended
    (by rw [flags]; decide) (by rw [payload]; exact loaded)
  obtain ⟨after, told, later⟩ := answered how rfl stands.guest stands.guest
  dsimp only [Tcp.Channel.fed] at told later
  rw [stands.sequence, stands.acknowledgment, counted] at told later
  rw [stands.state] at later
  change exchange.Stands after index _ _ _ window.received at later
  rw [received] at later
  exact ⟨after, told, later⟩

/-- Any data before the push, however it is cut, is taken piece by piece. -/
theorem Stands.takes_all {chunks : List Bytes} {taken : Bytes} {frames : List Bytes}
    (stands : exchange.Stands interface index .established (exchange.number + 1)
      (exchange.number + 1 + UInt32.ofNat taken.length) taken)
    (loaded : ∀ chunk ∈ chunks, chunk ≠ [])
    (room : taken.length + chunks.flatten.length < Tcp.windowSize)
    (fits : ∀ frame ∈ frames, frame.length ≤ packetSize)
    (read : frames.map Message.ofFrame? = (exchange.dataFrom taken.length chunks).map some) :
    ∃ after,
      Dialogue interface frames (exchange.acknowledgmentsFrom taken.length chunks) after ∧
      exchange.Stands after index .established (exchange.number + 1)
        (exchange.number + 1 + UInt32.ofNat (taken ++ chunks.flatten).length)
        (taken ++ chunks.flatten) := by
  induction chunks generalizing interface taken frames with
  | nil =>
      obtain rfl := List.map_eq_nil_iff.mp read
      refine ⟨interface, .done interface, ?_⟩
      rw [List.flatten_nil, List.append_nil]
      exact stands
  | cons chunk chunks inductiveHypothesis =>
      obtain ⟨frame, frames, rfl, first, rest⟩ := List.map_eq_cons_iff.mp read
      rw [List.flatten_cons, List.length_append] at room
      obtain ⟨middle, answered, further⟩ :=
        stands.takes (loaded chunk List.mem_cons_self) (by omega) (fits frame List.mem_cons_self)
          first
      have middleRoom : (taken ++ chunk).length + chunks.flatten.length < Tcp.windowSize := by
        rw [List.length_append]
        omega
      rw [← List.length_append] at rest
      obtain ⟨after, dialogue, last⟩ :=
        inductiveHypothesis further (fun other member => loaded other (.tail _ member)) middleRoom
          (fun other member => fits other (.tail _ member)) rest
      refine ⟨after, ?_, ?_⟩
      · rw [acknowledgmentsFrom, ← List.length_append]
        exact .turn answered dialogue
      · rw [List.flatten_cons, ← List.append_assoc]
        exact last

/-- The push is answered with the response to everything received. -/
theorem Stands.pushes
    (stands : exchange.Stands interface index .established (exchange.number + 1)
      (exchange.number + 1 + UInt32.ofNat exchange.chunks.flatten.length)
      exchange.chunks.flatten)
    (room : exchange.request.length < Tcp.windowSize) (fits : frame.length ≤ packetSize)
    (read : Message.ofFrame? frame =
      some (exchange.asks (.ack ||| .psh)
        (exchange.number + 1 + UInt32.ofNat exchange.chunks.flatten.length)
        (exchange.number + 1) exchange.pushed)) :
    ∃ after,
      Answered interface frame
        (exchange.tells (.ack ||| .psh ||| .fin) (exchange.number + 1)
          (exchange.number + 1 + UInt32.ofNat exchange.request.length) exchange.reply) after ∧
      exchange.Stands after index .closeWait
        (exchange.number + 2 + UInt32.ofNat exchange.reply.length)
        (exchange.number + 1 + UInt32.ofNat exchange.request.length) [] := by
  obtain ⟨segment, client, flags, sequence, acknowledgment, payload, answered⟩ :=
    turn stands.attentive stands.server stands.sound fits read
  rw [request, List.length_append] at room
  obtain ⟨window, appended, received⟩ := stands.appends payload room
  have counted : exchange.number + 1 + UInt32.ofNat exchange.chunks.flatten.length +
      UInt32.ofNat segment.payload.length =
        exchange.number + 1 + UInt32.ofNat exchange.request.length := by
    rw [payload, request, List.length_append, UInt32.ofNat_add, UInt32.add_assoc]
  have how := Tcp.Channel.Reacts.answers stands.state
    (stands.expects client (by rw [flags]; decide) sequence acknowledgment) appended
    (by rw [flags]; decide)
  have whole : exchange.reply.take Tcp.maxPayload = exchange.reply :=
    Http.take_written_respond exchange.request Tcp.maxPayload
  have replied : Http.respond
      ((interface.pool.get index).fed window segment.payload.length).received
        (.zeros Tcp.maxPayload) = Http.respond exchange.request (.zeros Tcp.maxPayload) :=
    congrArg (fun request => Http.respond request (Bytes.zeros Tcp.maxPayload)) received
  have length : (Http.respond exchange.request (.zeros Tcp.maxPayload)).length =
      exchange.reply.length := (Http.length_written_respond _ _).symm
  obtain ⟨after, told, later⟩ := answered how rfl stands.guest stands.guest
  dsimp only [Tcp.Channel.answerRequest] at told later
  rw [replied] at told later
  change Answered interface frame
    (exchange.tells _ (interface.pool.get index).sequence
      ((interface.pool.get index).acknowledgment + UInt32.ofNat segment.payload.length)
      (exchange.reply.take Tcp.maxPayload)) after at told
  change exchange.Stands after index .closeWait
    ((interface.pool.get index).sequence + (UInt32.ofNat _ + 1))
    ((interface.pool.get index).acknowledgment + UInt32.ofNat segment.payload.length) [] at later
  rw [stands.sequence, stands.acknowledgment, counted, whole] at told
  rw [stands.sequence, stands.acknowledgment, counted, length, add_two] at later
  exact ⟨after, told, later⟩

/-- The end of the client's side is acknowledged, and the channel listens again. -/
theorem Stands.closes
    (stands : exchange.Stands interface index .closeWait
      (exchange.number + 2 + UInt32.ofNat exchange.reply.length)
      (exchange.number + 1 + UInt32.ofNat exchange.request.length) [])
    (fits : frame.length ≤ packetSize)
    (read : Message.ofFrame? frame =
      some (exchange.asks (.ack ||| .fin)
        (exchange.number + 1 + UInt32.ofNat exchange.request.length)
        (exchange.number + 2 + UInt32.ofNat exchange.reply.length) [])) :
    ∃ after,
      Answered interface frame
        (exchange.tells .ack (exchange.number + 2 + UInt32.ofNat exchange.reply.length)
          (exchange.number + 2 + UInt32.ofNat exchange.request.length) []) after ∧
      exchange.Stands after index .listen
        (exchange.number + 2 + UInt32.ofNat exchange.reply.length)
        (exchange.number + 2 + UInt32.ofNat exchange.request.length) [] := by
  obtain ⟨segment, client, flags, sequence, acknowledgment, -, answered⟩ :=
    turn stands.attentive stands.server stands.sound fits read
  have how := Tcp.Channel.Reacts.closes stands.state (by rw [flags]; decide)
    (by rw [flags]; decide)
    (stands.expects client (by rw [flags]; decide) sequence acknowledgment)
  have counted : exchange.number + 1 + UInt32.ofNat exchange.request.length + 1 =
      exchange.number + 2 + UInt32.ofNat exchange.request.length := by
    rw [UInt32.add_assoc, add_two]
  obtain ⟨after, told, later⟩ := answered how rfl stands.guest stands.guest
  dsimp only [Reaction.control] at told later
  rw [stands.sequence, stands.acknowledgment, counted] at told later
  refine ⟨after, told, ?_⟩
  rw [← stands.received]
  exact later

/-- Up to the push: the channel has taken all data before it. -/
theorem uploads {frames : List Bytes} (attentive : interface.Attentive)
    (server : exchange.server = ⟨interface.config.address, Tcp.Pool.localPort index⟩)
    (sound : (interface.pool.get index).Sound)
    (listening : (interface.pool.get index).state = .listen)
    (loaded : ∀ chunk ∈ exchange.chunks, chunk ≠ [])
    (room : exchange.chunks.flatten.length < Tcp.windowSize)
    (fits : ∀ frame ∈ frames, frame.length ≤ packetSize)
    (read : frames.map Message.ofFrame? = exchange.upload.map some) :
    ∃ fed, Dialogue interface frames exchange.confirmations fed ∧
      exchange.Stands fed index .established (exchange.number + 1)
        (exchange.number + 1 + UInt32.ofNat exchange.chunks.flatten.length)
        exchange.chunks.flatten := by
  obtain ⟨syn, frames, rfl, readSyn, read⟩ := List.map_eq_cons_iff.mp read
  obtain ⟨ack, frames, rfl, readAck, readData⟩ := List.map_eq_cons_iff.mp read
  obtain ⟨opened, toldSyn, onOpened⟩ :=
    opens attentive server sound listening (fits syn (by simp)) readSyn
  obtain ⟨established, toldAck, onEstablished⟩ :=
    onOpened.establishes (fits ack (by simp)) readAck
  have dataRoom : ([] : Bytes).length + exchange.chunks.flatten.length < Tcp.windowSize := by
    rw [List.length_nil, Nat.zero_add]
    exact room
  have nothingTaken : exchange.Stands established index .established (exchange.number + 1)
      (exchange.number + 1 + UInt32.ofNat ([] : Bytes).length) [] := by
    have start : exchange.number + 1 + UInt32.ofNat ([] : Bytes).length = exchange.number + 1 :=
      UInt32.add_zero _
    rw [start]
    exact onEstablished
  obtain ⟨fed, toldData, onFed⟩ :=
    nothingTaken.takes_all loaded dataRoom (fun frame member => fits frame (by simp [member]))
      readData
  rw [List.nil_append] at onFed
  exact ⟨fed, .turn toldSyn (.turn toldAck toldData), onFed⟩

/-- The whole exchange, from a listening channel to a listening channel. -/
theorem completes {frames : List Bytes} (attentive : interface.Attentive)
    (server : exchange.server = ⟨interface.config.address, Tcp.Pool.localPort index⟩)
    (sound : (interface.pool.get index).Sound)
    (listening : (interface.pool.get index).state = .listen)
    (loaded : ∀ chunk ∈ exchange.chunks, chunk ≠ [])
    (room : exchange.request.length < Tcp.windowSize)
    (fits : ∀ frame ∈ frames, frame.length ≤ packetSize)
    (read : frames.map Message.ofFrame? = exchange.script.map some) :
    ∃ last, Dialogue interface frames exchange.answers last ∧
      exchange.Stands last index .listen
        (exchange.number + 2 + UInt32.ofNat exchange.reply.length)
        (exchange.number + 2 + UInt32.ofNat exchange.request.length) [] := by
  rw [script, List.map_append] at read
  obtain ⟨data, frames, rfl, readData, read⟩ := List.map_eq_append_iff.mp read
  obtain ⟨push, frames, rfl, readPush, read⟩ := List.map_eq_cons_iff.mp read
  obtain ⟨fin, frames, rfl, readFin, read⟩ := List.map_eq_cons_iff.mp read
  obtain rfl := List.map_eq_nil_iff.mp read
  have dataRoom : exchange.chunks.flatten.length < Tcp.windowSize := by
    rw [request, List.length_append] at room
    omega
  obtain ⟨fed, toldData, onFed⟩ :=
    uploads attentive server sound listening loaded dataRoom
      (fun frame member => fits frame (by simp [member])) readData
  obtain ⟨answered, toldPush, onAnswered⟩ := onFed.pushes room (fits push (by simp)) readPush
  obtain ⟨last, toldFin, onLast⟩ := onAnswered.closes (fits fin (by simp)) readFin
  exact ⟨last, toldData.append (.turn toldPush (.turn toldFin (.done last))), onLast⟩

end Exchange

namespace Setup

open Interface (Operation)

/-- Whatever happened before, as long as no frame waits: on a running adapter
every listening channel goes through a whole exchange with any client, turn by
turn, and listens again with nothing received.  The stack sends the answers of
the exchange and nothing else. -/
theorem exchange_completes (setup : Setup) (operations : List Operation)
    (index : Fin Tcp.poolSize) (exchange : Exchange) (frames : List Bytes)
    (running : setup.automatic = true)
    (idle : (setup.start.after operations).nic.receiveReady = false)
    (listening : ((setup.start.after operations).pool.get index).state = .listen)
    (server : exchange.server = ⟨setup.config.address, Tcp.Pool.localPort index⟩)
    (loaded : ∀ chunk ∈ exchange.chunks, chunk ≠ [])
    (short : exchange.request.length < 14600)
    (fits : ∀ frame ∈ frames, frame.length ≤ packetSize)
    (script : frames.map Message.ofFrame? = exchange.script.map some) :
    let reached := setup.start.after operations
    let last := reached.after (Interface.deliveries frames)
    Dialogue reached frames exchange.answers last ∧
      (∃ answers, last.nic.sent = reached.nic.sent ++ answers ∧
        answers.map Message.ofFrame? = exchange.answers.map some) ∧
      (last.pool.get index).state = .listen ∧ (last.pool.get index).received = [] := by
  intro reached last
  obtain ⟨sound, same⟩ := setup.sound_after operations
  rw [running] at sound
  rw [← same] at server
  obtain ⟨ending, dialogue, stands⟩ :=
    Exchange.completes (sound.attentive idle) server (sound.channels index) listening loaded short
      fits script
  obtain rfl : last = ending := dialogue.after_deliveries
  exact ⟨dialogue, dialogue.sent, stands.state, stands.received⟩

/-- A request in three pieces, over a connection whose numbers wrap at once. -/
def sampleExchange : Exchange where
  client := ⟨⟨10, 0, 2, 2⟩, 51000⟩
  server := ⟨⟨10, 0, 2, 15⟩, 80⟩
  number := 0xffffffff
  unread := 0
  chunks := [Bytes.ascii "GET / HT", Bytes.ascii "TP/1"]
  pushed := Bytes.ascii ".1\n"

theorem exchange_completes_sample :
    let frames := sampleExchange.script.map fun message =>
      message.frame (Setup.default true).start
    let last := (Setup.default true).start.after (Interface.deliveries frames)
    Dialogue (Setup.default true).start frames sampleExchange.answers last ∧
      (∃ answers, last.nic.sent = (Setup.default true).start.nic.sent ++ answers ∧
        answers.map Message.ofFrame? = sampleExchange.answers.map some) ∧
      (last.pool.get Tcp.Pool.web).state = .listen ∧
      (last.pool.get Tcp.Pool.web).received = [] := by
  have listening : ((Setup.default true).start.pool.get Tcp.Pool.web).state = .listen := by
    rw [pool_start, Tcp.Pool.get_listening]
    rfl
  have small : ∀ message ∈ sampleExchange.script, message.payload.length ≤ Tcp.maxPayload := by
    decide
  refine exchange_completes (Setup.default true) [] Tcp.Pool.web sampleExchange _ rfl
    (carries_start (Setup.default true)).receiveReady listening rfl (by decide) (by decide) ?_
    (Message.map_ofFrame?_frame _ small)
  intro frame member
  obtain ⟨message, -, rfl⟩ := List.mem_map.mp member
  exact message.length_frame_le _

end Setup

end NetStack
