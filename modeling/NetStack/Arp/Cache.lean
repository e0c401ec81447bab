/-
Module: NetStack.Arp.Cache
Purpose: The table of known bindings between IPv4 and hardware addresses.
Main exports:
  Arp.Slot, Arp.Cache, Arp.Cache.pinning, Arp.Cache.lookup, Arp.Cache.observe,
  Arp.Observation
-/
import NetStack.Address

namespace NetStack.Arp

/-!
The table has a fixed number of slots.  The last one holds a pinned binding
that no traffic changes.  Every other slot starts free and goes to the first
binding seen for an address; later sightings refresh the binding in place, and
nothing is ever evicted.  Once the table is full, new addresses stay unknown.
-/

/-- One slot of the table. -/
inductive Slot where
  | free
  /-- The pinned binding. -/
  | pinned (address : Ipv4Address) (mac : MacAddress)
  /-- A binding learned from traffic. -/
  | learned (address : Ipv4Address) (mac : MacAddress)
deriving Repr, Inhabited, DecidableEq

namespace Slot

/-- The binding that the slot holds, if it holds one. -/
def binding? : Slot → Option (Ipv4Address × MacAddress)
  | free => none
  | pinned address mac => some (address, mac)
  | learned address mac => some (address, mac)

def isFree (slot : Slot) : Bool :=
  slot.binding?.isNone

/-- Whether the slot binds `address`; a free slot binds nothing. -/
def binds (address : Ipv4Address) (slot : Slot) : Bool :=
  match slot.binding? with
  | some (bound, _) => bound == address
  | none => false

end Slot

/-- What a sighting did to the table. -/
inductive Observation where
  /-- The address took the first free slot. -/
  | inserted (slot : Nat)
  /-- The address already had a slot, whose hardware address was renewed. -/
  | refreshed (slot : Nat)
  /-- The address is the pinned one, which is left alone. -/
  | pinned (slot : Nat)
  /-- The address is new and no slot is free. -/
  | tableFull
deriving Repr, Inhabited, DecidableEq

structure Cache where
  slots : List Slot
deriving Repr, Inhabited, DecidableEq

namespace Cache

def capacity : Nat := 32

/-- The table that holds nothing but one pinned binding, in its last slot. -/
def pinning (address : Ipv4Address) (mac : MacAddress) : Cache :=
  ⟨List.replicate (capacity - 1) .free ++ [.pinned address mac]⟩

/-- The hardware address bound to `address`. -/
def lookup (cache : Cache) (address : Ipv4Address) : Option MacAddress :=
  ((cache.slots.find? (Slot.binds address)).bind Slot.binding?).map Prod.snd

/-- Give a new address the first free slot. -/
def insert (cache : Cache) (address : Ipv4Address) (mac : MacAddress) : Observation × Cache :=
  match cache.slots.findIdx? Slot.isFree with
  | some index => (.inserted index, ⟨cache.slots.set index (.learned address mac)⟩)
  | none => (.tableFull, cache)

/-- Take note that `address` was seen at `mac`. -/
def observe (cache : Cache) (address : Ipv4Address) (mac : MacAddress) : Observation × Cache :=
  match cache.slots.findIdx? (Slot.binds address) with
  | some index =>
      match cache.slots[index]? with
      | some (.learned _ _) => (.refreshed index, ⟨cache.slots.set index (.learned address mac)⟩)
      | _ => (.pinned index, cache)
  | none => cache.insert address mac

def slot? (cache : Cache) (index : Nat) : Option Slot :=
  cache.slots[index]?

/-- The number of slots in use. -/
def size (cache : Cache) : Nat :=
  cache.slots.countP fun slot => !slot.isFree

def isEmpty (cache : Cache) : Bool :=
  cache.size == 0

end Cache

end NetStack.Arp
