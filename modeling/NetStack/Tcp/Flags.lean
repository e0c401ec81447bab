/-
Module: NetStack.Tcp.Flags
Purpose: The control flags of a segment and the states of a connection.
Main exports:
  Tcp.Flags, Tcp.Flags.contains, Tcp.Flags.text, Tcp.State, Tcp.State.text
-/
import NetStack.Text

namespace NetStack.Tcp

/-- A set of control flags, one bit each. -/
structure Flags where
  bits : UInt8
deriving Repr, Inhabited, DecidableEq

namespace Flags

def empty : Flags := ⟨0x00⟩

def fin : Flags := ⟨0x01⟩

def syn : Flags := ⟨0x02⟩

def rst : Flags := ⟨0x04⟩

def psh : Flags := ⟨0x08⟩

def ack : Flags := ⟨0x10⟩

def urg : Flags := ⟨0x20⟩

def ece : Flags := ⟨0x40⟩

def cwr : Flags := ⟨0x80⟩

/-- The flags of both sets. -/
def union (left right : Flags) : Flags :=
  ⟨left.bits ||| right.bits⟩

instance : OrOp Flags := ⟨union⟩

/-- Whether every flag in `required` is set. -/
def contains (flags required : Flags) : Bool :=
  flags.bits &&& required.bits == required.bits

/-- The flags by name, in the order of their bits. -/
def named : List (Flags × String) :=
  [(fin, "FIN"), (syn, "SYN"), (rst, "RST"), (psh, "PSH"),
    (ack, "ACK"), (urg, "URG"), (ece, "ECE"), (cwr, "CWR")]

/-- The names of the flags that are set, joined by bars; `0x0` for none. -/
def text (flags : Flags) : String :=
  let names := (named.filter fun entry => flags.contains entry.1).map Prod.snd
  let spelled := if names.isEmpty then "0x0" else " | ".intercalate names
  "TcpFlags(" ++ spelled ++ ")"

end Flags

/-- The connection states of RFC 793. -/
inductive State where
  | closed
  | listen
  | synSent
  | synReceived
  | established
  | finWait1
  | closing
  | finWait2
  | timeWait
  | closeWait
  | lastAck
deriving Repr, Inhabited, DecidableEq

def State.text : State → String
  | closed => "Closed"
  | listen => "Listen"
  | synSent => "SynSent"
  | synReceived => "SynReceived"
  | established => "Established"
  | finWait1 => "FinWait1"
  | closing => "Closing"
  | finWait2 => "FinWait2"
  | timeWait => "TimeWait"
  | closeWait => "CloseWait"
  | lastAck => "LastAck"

end NetStack.Tcp
