/-
Module: NetStack.Http.RequestLine
Purpose: The one request line that the responder understands:
  `GET <uri> HTTP/1.1`, or the same with version 1.0.
Main exports:
  Http.Span, Http.Token, Http.Token.first, Http.RequestLine,
  Http.RequestLine.parse, Http.Refusal
-/
import NetStack.Bytes

namespace NetStack.Http

/-!
A request is cut at spaces and newlines.  The first three tokens are the
method, the address and the version; one carriage return at the end of a token
does not belong to it.  Nothing is copied out of the request: a parsed line is
three ranges of it.
-/

def method : Bytes := Bytes.ascii "GET"

def version : String := "HTTP/1.1"

def olderVersion : String := "HTTP/1.0"

/-- A range of the request. -/
structure Span where
  offset : Nat
  length : Nat
deriving Repr, Inhabited, DecidableEq

/-- The bytes in the range. -/
def Span.of (span : Span) (request : Bytes) : Bytes :=
  (request.drop span.offset).take span.length

/-- Tokens end at a space or a newline. -/
def isDelimiter (byte : UInt8) : Bool :=
  byte == 0x20 || byte == 0x0A

/-- A piece without the carriage return that a line ending leaves on it. -/
def trimReturn (piece : Bytes) : Bytes :=
  if piece.getLast? = some 0x0D then piece.dropLast else piece

/-- A token, where it lies, and what comes after the delimiter behind it.
Nothing comes after a token that the end of the request ends. -/
structure Token where
  span : Span
  bytes : Bytes
  /-- What follows the delimiter, with its offset. -/
  rest? : Option (Nat × Bytes)
deriving Repr

/-- The first token of `text`, which lies at `offset` in the request. -/
def Token.first (offset : Nat) (text : Bytes) : Token :=
  let piece := text.takeWhile fun byte => !isDelimiter byte
  let bytes := trimReturn piece
  { span := ⟨offset, bytes.length⟩
    bytes
    rest? :=
      match text.drop piece.length with
      | [] => none
      | _ :: rest => some (offset + piece.length + 1, rest) }

structure RequestLine where
  method : Span
  uri : Span
  version : Span
deriving Repr, Inhabited, DecidableEq

/-- Why a request line is turned away. -/
inductive Refusal where
  | unknownMethod
  | unknownVersion
  | incomplete
deriving Repr, Inhabited, DecidableEq

/-- The status that a refused request is answered with. -/
def Refusal.status : Refusal → UInt16
  | unknownMethod => 400
  | unknownVersion => 505
  | incomplete => 400

/-- Read the request line.  The method is judged before it is known whether the
line is complete. -/
def RequestLine.parse (request : Bytes) : Except Refusal RequestLine :=
  let asked := Token.first 0 request
  if asked.bytes ≠ Http.method then
    .error .unknownMethod
  else
    match asked.rest? with
    | none => .error .incomplete
    | some (offset, text) =>
        let uri := Token.first offset text
        match uri.rest? with
        | none => .error .incomplete
        | some (offset, text) =>
            let spoken := Token.first offset text
            if spoken.bytes = Bytes.ascii Http.version ∨
                spoken.bytes = Bytes.ascii olderVersion then
              .ok { method := asked.span, uri := uri.span, version := spoken.span }
            else
              .error .unknownVersion

end NetStack.Http
