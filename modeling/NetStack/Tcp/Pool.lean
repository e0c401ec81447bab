/-
Module: NetStack.Tcp.Pool
Purpose: The fixed pool of channels, and which port each one serves.
Main exports:
  Tcp.Pool, Tcp.Pool.listening, Tcp.Pool.find?, Tcp.Pool.fresh, Tcp.Pool.set,
  Tcp.Pool.reset
-/
import NetStack.Tcp.Channel

namespace NetStack.Tcp

def poolSize : Nat := 64

/-- The port of channel 0. -/
def webPort : UInt16 := 80

/-- Channel `i`, from 1 on, serves the port that lies `i` past this one. -/
def portBase : Nat := 7999

structure Pool where
  localAddress : Ipv4Address
  /-- The peer written into a channel that never had one. -/
  defaultPeer : Ipv4Address
  channels : Vector Channel poolSize
deriving Repr

namespace Pool

/-- The port that channel `index` serves. -/
def localPort (index : Nat) : UInt16 :=
  match index with
  | 0 => webPort
  | index => UInt16.ofNat (portBase + index)

/-- The peer port written into a channel that never had a peer. -/
def guestPort (index : Nat) : UInt16 :=
  match index with
  | 0 => 8080
  | index => UInt16.ofNat index

/-- Channel `index` in its initial binding. -/
def initial (localAddress defaultPeer : Ipv4Address) (index : Nat) : Channel :=
  .listening ⟨localAddress, localPort index⟩ ⟨defaultPeer, guestPort index⟩

/-- Every channel bound to its port, all of them listening. -/
def listening (localAddress defaultPeer : Ipv4Address) : Pool :=
  { localAddress
    defaultPeer
    channels := Vector.ofFn fun index => initial localAddress defaultPeer index.val }

/-- What channel `index` is after a reset. -/
def fresh (pool : Pool) (index : Nat) : Channel :=
  initial pool.localAddress pool.defaultPeer index

def get (pool : Pool) (index : Fin poolSize) : Channel :=
  pool.channels[index]

def set (pool : Pool) (index : Fin poolSize) (channel : Channel) : Pool :=
  { pool with channels := pool.channels.set index channel }

/-- Put channel `index` back into its initial binding. -/
def reset (pool : Pool) (index : Fin poolSize) : Pool :=
  pool.set index (pool.fresh index)

/-- The channel bound to a local port.  Peers play no part in the match, so a
port serves one peer at a time. -/
def find? (pool : Pool) (port : UInt16) : Option (Fin poolSize) :=
  (List.finRange poolSize).find? fun index => (pool.get index).host.port == port

def size (pool : Pool) : Nat :=
  pool.channels.size

def isEmpty (pool : Pool) : Bool :=
  pool.size == 0

theorem get_set_same (pool : Pool) (index : Fin poolSize) (channel : Channel) :
    (pool.set index channel).get index = channel := by
  simp [get, set]

theorem get_set_other {pool : Pool} {index other : Fin poolSize} (channel : Channel)
    (different : index ≠ other) :
    (pool.set index channel).get other = pool.get other := by
  have differs : (index : Nat) ≠ (other : Nat) := fun same => different (Fin.ext same)
  simp [get, set, differs]

end Pool

end NetStack.Tcp
