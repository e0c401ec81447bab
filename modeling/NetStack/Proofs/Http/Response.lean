/-
Module: NetStack.Proofs.Http.Response
Purpose: A response is as much of its text as its buffer has room for, and stays inside
  the buffer it is written into.
Main exports:
  Http.Cursor.Inside, Http.Cursor.Inside.writeAll_eq_write, Http.statusLines,
  Http.statusLine_eq, Http.responseHead, Http.responseText,
  Http.Reply.Cuts, Http.cuts_writeResponse, Http.due, Http.cuts_respond,
  Http.written_respond_eq, Http.length_respond_le, Http.length_written_respond, Http.slice_respond_eq_ok,
  Http.take_written_respond
-/
import NetStack.Http.Response

namespace NetStack

/-- Texts may be spelled one after the other. -/
theorem Bytes.ascii_append (front behind : String) :
    Bytes.ascii (front ++ behind) = Bytes.ascii front ++ Bytes.ascii behind := by
  rw [Bytes.ascii, String.toList_append, List.map_append]
  rfl

@[simp] theorem Bytes.length_ascii (text : String) : (Bytes.ascii text).length = text.length := by
  rw [Bytes.ascii, List.length_map, String.length_toList]

namespace Http

/-!
A response is written in pieces, and may run out of room in any of them.  It makes no
difference where they are cut: to write them one after the other, up to the first that
does not fit, is to write the text that they make as far as it fits.
-/

namespace Cursor

/-- A place inside a buffer of `size` bytes. -/
structure Inside (cursor : Cursor) (size : Nat) : Prop where
  sized : cursor.buffer.length = size
  bounded : cursor.position ≤ size

variable {cursor : Cursor} {size : Nat} {piece : Bytes}

theorem Inside.write (inside : cursor.Inside size) (piece : Bytes) :
    (cursor.write piece).2.Inside size := by
  obtain ⟨sized, bounded⟩ := inside
  constructor
  · simp only [Cursor.write, List.length_append, List.length_take, List.length_drop]
    omega
  · simp only [Cursor.write, List.length_take]
    omega

/-- A piece that fits is written whole. -/
theorem write_eq
    (fits : piece.length ≤ cursor.buffer.length - cursor.position) :
    cursor.write piece =
      (true, {
        buffer := cursor.buffer.take cursor.position ++ piece ++
          cursor.buffer.drop (cursor.position + piece.length)
        position := cursor.position + piece.length }) := by
  simp only [write]
  rw [List.take_of_length_le fits, decide_eq_true fits]

/-- Behind a piece that fits, the next one is written as if it belonged to it. -/
theorem Inside.write_append (inside : cursor.Inside size)
    (fits : piece.length ≤ cursor.buffer.length - cursor.position) (next : Bytes) :
    (cursor.write piece).2.write next = cursor.write (piece ++ next) := by
  obtain ⟨rfl, bounded⟩ := inside
  obtain ⟨buffer, position⟩ := cursor
  dsimp only at bounded fits
  let front := buffer.take position ++ piece
  let stop := position + piece.length
  have frontLength : front.length = stop := by
    rw [List.length_append, List.length_take, Nat.min_eq_left bounded]
  have size : (front ++ buffer.drop stop).length = buffer.length := by
    rw [List.length_append, frontLength, List.length_drop]
    omega
  have room : buffer.length - position - piece.length = buffer.length - stop :=
    Nat.sub_sub _ _ _
  have cut : (piece ++ next).take (buffer.length - position) =
      piece ++ next.take (buffer.length - stop) := by
    rw [List.take_append, List.take_of_length_le fits, room]
  have fitting : decide ((piece ++ next).length ≤ buffer.length - position) =
      decide (next.length ≤ buffer.length - stop) := by
    rw [List.length_append]
    exact decide_eq_decide.mpr (by omega)
  have kept : (front ++ buffer.drop stop).take stop = front := List.take_left' frontLength
  have behind (count : Nat) :
      (front ++ buffer.drop stop).drop (stop + count) = buffer.drop (stop + count) := by
    rw [← List.drop_drop, List.drop_left' frontLength, List.drop_drop]
  have wrote : Cursor.write ⟨buffer, position⟩ piece =
      (true, { buffer := front ++ buffer.drop stop, position := stop }) := write_eq fits
  rw [wrote, Cursor.write, Cursor.write]
  dsimp only
  rw [size, cut, fitting, kept, behind, List.length_append, ← Nat.add_assoc,
    ← List.append_assoc]

/-- A piece that does not fit hides all that would follow it. -/
theorem write_append_of_short
    (short : cursor.buffer.length - cursor.position < piece.length) (next : Bytes) :
    cursor.write (piece ++ next) = (false, (cursor.write piece).2) := by
  have shorter : ¬(piece ++ next).length ≤ cursor.buffer.length - cursor.position := by
    rw [List.length_append]
    omega
  simp only [write]
  rw [List.take_append_of_le_length (Nat.le_of_lt short), decide_eq_false shorter]

/-- To write pieces is to write the text that they make. -/
theorem Inside.writeAll_eq_write (inside : cursor.Inside size) (pieces : List Bytes) :
    cursor.writeAll pieces = cursor.write pieces.flatten := by
  induction pieces generalizing cursor with
  | nil =>
      rw [writeAll, List.flatten_nil, write_eq (Nat.zero_le _), List.append_nil,
        List.length_nil, Nat.add_zero, List.take_append_drop]
  | cons piece pieces inductiveHypothesis =>
      rw [writeAll, List.flatten_cons]
      by_cases fits : piece.length ≤ cursor.buffer.length - cursor.position
      · have wrote : cursor.write piece = (true, (cursor.write piece).2) := by
          rw [write_eq fits]
        rw [wrote]
        dsimp only
        rw [inductiveHypothesis (inside.write piece), inside.write_append fits]
      · have wrote : cursor.write piece = (false, (cursor.write piece).2) := by
          rw [Cursor.write, decide_eq_false fits]
        rw [wrote, write_append_of_short (Nat.lt_of_not_le fits)]

end Cursor

/-! ## The text of a response -/

/-- The first lines of responses, by their status. -/
def statusLines : List (UInt16 × String) :=
  [(200, "HTTP/1.1 200 OK"),
    (400, "HTTP/1.1 400 Bad Request"),
    (404, "HTTP/1.1 404 Not Found"),
    (505, "HTTP/1.1 505 HTTP Version Not Supported")]

/-- The first line of a response.  A status without a line of its own has that of 520. -/
def statusLine (status : UInt16) : String :=
  (statusLines.lookup status).getD "HTTP/1.1 520 Unknown Error"

/-- What stands in front of the body of a response. -/
def responseHead (status : UInt16) (length : Nat) : Bytes :=
  Bytes.ascii (statusLine status ++ "\n" ++ "Content-Type: text/html" ++ "\n" ++
    "Content-Length: " ++ Nat.repr length ++ "\n\n")

/-- A whole response. -/
def responseText (status : UInt16) (body : Bytes) : Bytes :=
  responseHead status body.length ++ body

/-- The line is put together from the version and the text of the status. -/
theorem statusLine_eq (status : UInt16) :
    statusLine status = version ++ " " ++ statusText status := by
  by_cases granted : status = 200
  · rw [granted]
    rfl
  by_cases malformed : status = 400
  · rw [malformed]
    rfl
  by_cases missing : status = 404
  · rw [missing]
    rfl
  by_cases unspoken : status = 505
  · rw [unspoken]
    rfl
  have unlisted : statusLines.lookup status = none := by
    simp only [statusLines, List.lookup_cons, List.lookup_nil, beq_eq_false_iff_ne.mpr granted,
      beq_eq_false_iff_ne.mpr malformed, beq_eq_false_iff_ne.mpr missing,
      beq_eq_false_iff_ne.mpr unspoken]
  rw [statusLine, unlisted, statusText, if_neg granted, if_neg malformed, if_neg missing,
    if_neg unspoken]
  rfl

theorem flatten_responsePieces (status : UInt16) (body : Bytes) :
    (responsePieces status body).flatten = responseText status body := by
  have middle : "\nContent-Type: text/html\nContent-Length: " =
      "\n" ++ "Content-Type: text/html" ++ "\n" ++ "Content-Length: " := rfl
  simp only [responsePieces, responseText, responseHead, statusLine_eq, Bytes.ascii_append, middle,
    List.flatten_cons, List.flatten_nil, List.append_assoc, List.append_nil]

theorem length_responseText (status : UInt16) (body : Bytes) :
    (responseText status body).length =
      43 + (statusLine status).length + (Nat.repr body.length).length + body.length := by
  have fixed : "\n".length = 1 ∧ "Content-Type: text/html".length = 23 ∧
      "Content-Length: ".length = 16 ∧ "\n\n".length = 2 := by decide
  obtain ⟨line, kind, counted, blank⟩ := fixed
  rw [responseText, responseHead, List.length_append, Bytes.length_ascii]
  simp only [String.length_append, line, kind, counted, blank]
  omega

/-- A reply that is as much of a text as its buffer has room for, in front of what the
buffer held before. -/
structure Reply.Cuts (reply : Reply) (text out : Bytes) : Prop where
  length : reply.length = min out.length text.length
  buffer : reply.buffer = text.take reply.length ++ out.drop reply.length

namespace Reply.Cuts

variable {reply : Reply} {text out : Bytes}

theorem size (cuts : reply.Cuts text out) : reply.buffer.length = out.length := by
  rw [cuts.buffer, cuts.length, List.length_append, List.length_take, List.length_drop]
  omega

theorem bounded (cuts : reply.Cuts text out) : reply.length ≤ out.length := by
  rw [cuts.length]
  exact Nat.min_le_left _ _

theorem written (cuts : reply.Cuts text out) : reply.written = text.take reply.length := by
  have counted : (text.take reply.length).length = reply.length := by
    rw [List.length_take, cuts.length]
    omega
  rw [Reply.written, cuts.buffer, List.take_left' counted]

/-- With room for all of it, the text is written whole. -/
theorem whole (cuts : reply.Cuts text out) (room : text.length ≤ out.length) :
    reply.written = text := by
  rw [cuts.written, cuts.length, Nat.min_eq_right room, List.take_length]

end Reply.Cuts

theorem cuts_writeResponse (status : UInt16) (page? : Option Bytes) (out : Bytes) :
    (writeResponse status page? out).Cuts (responseText status (page?.getD [])) out := by
  let text := responseText status (page?.getD [])
  have wrote : Cursor.writeAll ⟨out, 0⟩ (responsePieces status (page?.getD [])) =
      Cursor.write ⟨out, 0⟩ text := by
    have inside : Cursor.Inside ⟨out, 0⟩ out.length := ⟨rfl, Nat.zero_le _⟩
    rw [inside.writeAll_eq_write, flatten_responsePieces]
  have length : (writeResponse status page? out).length = (text.take out.length).length := by
    rw [writeResponse, wrote]
    exact Nat.zero_add _
  have buffer : (writeResponse status page? out).buffer =
      text.take out.length ++ out.drop (text.take out.length).length := by
    rw [writeResponse, wrote, ← Nat.zero_add (text.take out.length).length]
    rfl
  refine ⟨?_, ?_⟩
  · rw [length, List.length_take]
  · rw [buffer, length, List.length_take, ← List.take_eq_take_min]

/-! ## The response to a request -/

/-- What a request is answered with. -/
structure Due where
  status : UInt16
  page? : Option Bytes
deriving Repr, DecidableEq

/-- Nothing stands for a page that is not there. -/
def Due.body (due : Due) : Bytes :=
  due.page?.getD []

/-- What its request line makes a request due. -/
def due (request : Bytes) : Due :=
  match RequestLine.parse request with
  | .ok _ => ⟨200, some page⟩
  | .error refusal => ⟨refusal.status, none⟩

theorem due_cases (request : Bytes) :
    due request = ⟨200, some page⟩ ∨ due request = ⟨400, none⟩ ∨ due request = ⟨505, none⟩ := by
  unfold due
  cases RequestLine.parse request with
  | ok line => exact .inl rfl
  | error refusal =>
      cases refusal with
      | unknownMethod => exact .inr (.inl rfl)
      | unknownVersion => exact .inr (.inr rfl)
      | incomplete => exact .inr (.inl rfl)

/-- The page is given with status 200 and with no other. -/
theorem page?_due (request : Bytes) :
    (due request).page? = if (due request).status = 200 then some page else none := by
  rcases due_cases request with granted | refused | unspoken
  · rw [granted]
    rfl
  · rw [refused]
    rfl
  · rw [unspoken]
    rfl

/-- A request is answered with what it is due. -/
theorem respond_eq_due (request out : Bytes) :
    let response := writeResponse (due request).status (due request).page? out
    (respond request out).length = response.length ∧
      (respond request out).buffer = response.buffer := by
  unfold respond due
  cases RequestLine.parse request with
  | ok line => exact ⟨rfl, rfl⟩
  | error refusal => exact ⟨rfl, rfl⟩

/-- Requests that are due the same get the same answer. -/
theorem respond_congr {one other : Bytes} (same : due other = due one) (out : Bytes) :
    (respond other out).length = (respond one out).length ∧
      (respond other out).buffer = (respond one out).buffer := by
  obtain ⟨length, buffer⟩ := respond_eq_due one out
  obtain ⟨otherLength, otherBuffer⟩ := respond_eq_due other out
  rw [length, buffer, otherLength, otherBuffer, same]
  exact ⟨rfl, rfl⟩

/-- The whole response that is due. -/
def Due.text (due : Due) : Bytes :=
  responseText due.status due.body

theorem length_page : page.length = 77 := by
  rw [page, Bytes.length_ascii]
  rfl

/-- Whatever is due fits into one segment. -/
theorem length_text_due_le (request : Bytes) : (due request).text.length ≤ 1460 := by
  rw [Due.text, length_responseText]
  rcases due_cases request with granted | refused | unspoken
  · rw [granted, Due.body, Option.getD_some, length_page]
    decide
  · rw [refused]
    decide
  · rw [unspoken]
    decide

theorem cuts_respond (request out : Bytes) :
    (respond request out).Cuts (due request).text out := by
  obtain ⟨length, buffer⟩ := respond_eq_due request out
  have cuts := cuts_writeResponse (due request).status (due request).page? out
  exact ⟨length.trans cuts.length, by rw [buffer, length]; exact cuts.buffer⟩

/-- In a buffer of the size of a segment the answer is not cut. -/
theorem written_respond_eq (request : Bytes) :
    (respond request (.zeros 1460)).written = (due request).text := by
  apply (cuts_respond request (.zeros 1460)).whole
  rw [Bytes.length_zeros]
  exact length_text_due_le request

/-- A response is never longer than its buffer. -/
theorem length_respond_le (request out : Bytes) : (respond request out).length ≤ out.length :=
  (cuts_respond request out).bounded

/-- A response has as many bytes as were counted. -/
theorem length_written_respond (request out : Bytes) :
    (respond request out).written.length = (respond request out).length := by
  have sized := (cuts_respond request out).size
  have bounded := length_respond_le request out
  rw [Reply.written, List.length_take, sized]
  omega

/-- What was written can be read back out of the buffer. -/
theorem slice_respond_eq_ok (request out : Bytes) :
    let reply := respond request out
    Bytes.slice reply.buffer 0 reply.length = .ok reply.written := by
  have sized := (cuts_respond request out).size
  have bounded := length_respond_le request out
  exact Bytes.slice_eq_ok (Nat.zero_le _) (by omega)

/-- Cutting a response to the size of its buffer takes nothing away. -/
theorem take_written_respond (request : Bytes) (size : Nat) :
    (respond request (.zeros size)).written.take size =
      (respond request (.zeros size)).written := by
  apply List.take_of_length_le
  rw [length_written_respond]
  have fits := length_respond_le request (.zeros size)
  rwa [Bytes.length_zeros] at fits

end Http

end NetStack
