/-
Module: NetStack.Tcp.Channel
Purpose: One endpoint per port: its state, its peer, its numbers, and the
  window that collects what it receives.
Main exports:
  Tcp.ReceiveWindow, Tcp.ReceiveWindow.received, Tcp.ReceiveWindow.append,
  Tcp.ReceiveWindow.truncate, Tcp.Channel, Tcp.Channel.continues
-/
import NetStack.StackError
import NetStack.Tcp.Header

namespace NetStack.Tcp

/-!
A window is a buffer of fixed size and a fill mark.  Only bytes below the mark
count as received.  Dropping bytes moves the mark back and leaves the buffer as
it is, so stale bytes lie above the mark until they are written over.
-/

structure ReceiveWindow where
  cells : Bytes
  fill : Nat
deriving Repr, Inhabited, DecidableEq

namespace ReceiveWindow

def empty : ReceiveWindow :=
  ⟨Bytes.zeros windowSize, 0⟩

/-- The bytes received since the window was last cleared. -/
def received (window : ReceiveWindow) : Bytes :=
  window.cells.take window.fill

/-- Add a payload.  It has to leave at least one byte of the window free, or
else the window stays as it is. -/
def append (window : ReceiveWindow) (payload : Bytes) : Except Failure ReceiveWindow :=
  if windowSize ≤ window.fill + payload.length then
    .error (.refused .bufferOverflow)
  else
    match Bytes.splice window.cells window.fill payload with
    | .ok cells => .ok { cells, fill := window.fill + payload.length }
    | .error cause => .error (.fault cause)

/-- Keep only the first `length` received bytes. -/
def truncate (window : ReceiveWindow) (length : Nat) : ReceiveWindow :=
  { window with fill := min window.fill length }

def clear (window : ReceiveWindow) : ReceiveWindow :=
  { window with fill := 0 }

end ReceiveWindow

/-- A minimal endpoint: bound to one local port for good, it serves one peer at
a time and goes back to listening when an exchange is over. -/
structure Channel where
  state : State
  /-- The local end. -/
  host : Endpoint
  /-- The peer that is served, or was served last. -/
  guest : Endpoint
  /-- The next number to send. -/
  sequence : UInt32
  /-- The next number expected from the peer. -/
  acknowledgment : UInt32
  window : ReceiveWindow
deriving Repr, Inhabited, DecidableEq

namespace Channel

/-- A channel that waits for its first peer. -/
def listening (host guest : Endpoint) : Channel :=
  { state := .listen, host, guest, sequence := 0, acknowledgment := 0, window := .empty }

def received (channel : Channel) : Bytes :=
  channel.window.received

/-- Whether a segment with these numbers goes on exactly where the exchange
stands. -/
def continues (channel : Channel) (sequence acknowledgment : UInt32) : Bool :=
  sequence == channel.acknowledgment && acknowledgment == channel.sequence

end Channel

end NetStack.Tcp
