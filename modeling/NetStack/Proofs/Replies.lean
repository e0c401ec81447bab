/-
Module: NetStack.Proofs.Replies
Purpose: Replies are cut nowhere but at the end of their buffer, and never on the wire.
Main exports:
  Setup.replies_are_prefixes
-/
import NetStack.Proofs.History

namespace NetStack

open Interface (Operation)

/-!
The buffer that a channel hands to the responder has the size of a segment, and every
answer to a request is shorter.  So a response that leaves the stack is whole, and its
body is as long as its head says.
-/

namespace Setup

/-- Replies are prefixes of whole responses.  Whatever the status, the page and the
buffer, as much of the response is written as there is room for, and the rest of the
buffer stays.  The response starts with the line that `Http.statusLine` has for its
status.  A request is answered with the response to the status that its request line is
due, and has the page for status 200 only.  In the buffer of a channel none of these is
cut.  So, wherever a run has led, the frame that answers an accepted push carries the
whole response to all that was received, and as many bytes of a body as its head says. -/
theorem replies_are_prefixes :
    (∀ (status : UInt16) (page? : Option Bytes) (out : Bytes),
      (Http.writeResponse status page? out).Cuts
        (Http.responseText status (page?.getD [])) out) ∧
    (∀ request out : Bytes,
      let due := Http.due request
      let response := Http.writeResponse due.status due.page? out
      (Http.respond request out).length = response.length ∧
        (Http.respond request out).buffer = response.buffer ∧
        due.page? = if due.status = 200 then some Http.page else none) ∧
    (∀ request : Bytes,
      let due := Http.due request
      (Http.respond request (.zeros 1460)).written =
        Http.responseHead due.status due.body.length ++ due.body) ∧
    ∀ (setup : Setup) (operations : List Operation) (index : Fin Tcp.poolSize)
      (operation : Operation) (push : Tcp.Segment),
      let reached := setup.start.after operations
      let channel := reached.pool.get index
      let due := Http.due (channel.received ++ push.payload)
      reached.arrival operation = some push →
      push.header.destinationPort = Tcp.Pool.localPort index →
      channel.state = .established →
      push.header.flags.contains .psh = true →
      operation.result reached = .ok () →
      ∃ frame message,
        (operation.next reached).nic.outbox = reached.nic.outbox ++ [frame] ∧
        Tcp.Message.ofFrame? frame = some message ∧
        message.payload = Http.responseHead due.status due.body.length ++ due.body := by
  refine ⟨Http.cuts_writeResponse, ?_, Http.written_respond_eq, ?_⟩
  · intro request out
    obtain ⟨length, buffer⟩ := Http.respond_eq_due request out
    exact ⟨length, buffer, Http.page?_due request⟩
  · intro setup operations index operation push reached channel due arrives addressed
      established pushed succeeds
    obtain ⟨sound, -⟩ := setup.sound_after operations
    obtain ⟨frame, left, message⟩ :=
      sound.outbox_push arrives addressed established pushed succeeds
    exact ⟨frame, _, left, message, Http.written_respond_eq _⟩

/-- The sample exchange gets the page, and the line of a status that has none of its own
is cut where a short buffer ends. -/
theorem replies_are_prefixes_at_push :
    let start := (Setup.default true).start
    let frames := sampleExchange.upload.map fun message => message.frame start
    let reached := start.after (Interface.deliveries frames)
    (∃ frame message,
      (Operation.next (.processSegment samplePush) reached).nic.outbox =
        reached.nic.outbox ++ [frame] ∧
      Tcp.Message.ofFrame? frame = some message ∧
      message.payload = Bytes.ascii
        ("HTTP/1.1 200 OK\nContent-Type: text/html\nContent-Length: 77\n\n" ++
          "<!DOCTYPE html>\n<html><body><h1>Hello from toy-kernel-net!</h1></body></html>")) ∧
    (Http.writeResponse 418 none (.zeros 20)).written = Bytes.ascii "HTTP/1.1 520 Unknown" := by
  intro start frames reached
  obtain ⟨established, received, accepted⟩ := push_accepted_after_upload
  obtain ⟨cuts, -, -, answers⟩ := replies_are_prefixes
  obtain ⟨frame, message, left, reads, payload⟩ :=
    answers (Setup.default true) (Interface.deliveries frames) Tcp.Pool.web
      (.processSegment samplePush) samplePush rfl rfl established (by decide) accepted
  have due : Http.due (sampleExchange.chunks.flatten ++ samplePush.payload) =
      ⟨200, some Http.page⟩ := rfl
  have head : Http.responseHead 200 77 = Bytes.ascii
      "HTTP/1.1 200 OK\nContent-Type: text/html\nContent-Length: 77\n\n" :=
    congrArg Bytes.ascii (by decide)
  refine ⟨⟨frame, message, left, reads, ?_⟩, ?_⟩
  · rw [payload, received, due, Http.Due.body, Option.getD_some, Http.length_page, head,
      Bytes.ascii_append, Http.page]
  · have unknown := cuts 418 none (.zeros 20)
    rw [unknown.written, unknown.length]
    rfl

end Setup

end NetStack
