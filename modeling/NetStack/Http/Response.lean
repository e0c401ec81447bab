/-
Module: NetStack.Http.Response
Purpose: The answers of the responder, written into a buffer that may be too
  short for them.
Main exports:
  Http.Cursor, Http.statusText, Http.Reply, Http.writeResponse, Http.respond
-/
import NetStack.Event

namespace NetStack.Http

/-- A place in a buffer up to which it has been written. -/
structure Cursor where
  buffer : Bytes
  position : Nat
deriving Repr, Inhabited, DecidableEq

namespace Cursor

/-- Write as much of the piece as there is room for, and say whether all of it
fitted. -/
def write (cursor : Cursor) (piece : Bytes) : Bool × Cursor :=
  let room := cursor.buffer.length - cursor.position
  let fitting := piece.take room
  let stop := cursor.position + fitting.length
  (decide (piece.length ≤ room),
    { buffer := cursor.buffer.take cursor.position ++ fitting ++ cursor.buffer.drop stop
      position := stop })

/-- Write the pieces in order, up to the first one that does not fit. -/
def writeAll (cursor : Cursor) : List Bytes → Bool × Cursor
  | [] => (true, cursor)
  | piece :: pieces =>
      match cursor.write piece with
      | (true, cursor) => cursor.writeAll pieces
      | (false, cursor) => (false, cursor)

end Cursor

/-- The code and reason of a status line.  A status without a reason of its own
reports 520. -/
def statusText (status : UInt16) : String :=
  if status = 200 then "200 OK"
  else if status = 400 then "400 Bad Request"
  else if status = 404 then "404 Not Found"
  else if status = 505 then "505 HTTP Version Not Supported"
  else "520 Unknown Error"

/-- The page behind every address. -/
def page : Bytes :=
  Bytes.ascii "<!DOCTYPE html>\n<html><body><h1>Hello from toy-kernel-net!</h1></body></html>"

/-- The pieces of a response, in the order they are written. -/
def responsePieces (status : UInt16) (body : Bytes) : List Bytes :=
  [Bytes.ascii version, Bytes.ascii " ", Bytes.ascii (statusText status),
    Bytes.ascii "\nContent-Type: text/html\nContent-Length: ",
    Bytes.ascii (Nat.repr body.length), Bytes.ascii "\n\n", body]

/-- A response in a buffer: how many bytes were written, the whole buffer
afterwards, and the reports. -/
structure Reply where
  length : Nat
  buffer : Bytes
  events : List Event
deriving Repr, Inhabited

namespace Reply

/-- The bytes that were written. -/
def written (reply : Reply) : Bytes :=
  reply.buffer.take reply.length

end Reply

/-- Write a whole response, with a page if there is one.  A response that does
not fit is cut short. -/
def writeResponse (status : UInt16) (page? : Option Bytes) (out : Bytes) : Reply :=
  let (whole, cursor) := Cursor.writeAll ⟨out, 0⟩ (responsePieces status (page?.getD []))
  { length := cursor.position
    buffer := cursor.buffer
    events :=
      .replyCreating status :: if whole then [] else [.replyTruncated cursor.position] }

/-- Answer a request: the page for every well-formed request line, and otherwise
the status of the refusal. -/
def respond (request out : Bytes) : Reply :=
  let (seen, reply) :=
    match RequestLine.parse request with
    | .ok line => (Event.resourceRequested (line.uri.of request), writeResponse 200 (some page) out)
    | .error refusal => (Event.requestRefused refusal, writeResponse refusal.status none out)
  { reply with events := .requestParsing request.length :: seen :: reply.events }

end NetStack.Http
