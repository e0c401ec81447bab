/-
Module: NetStack.Interface.Basic
Purpose: The interface: everything that the stack changes while it runs, and
  how it is brought up.
Main exports:
  Interface, Interface.fresh, Interface.bringUp, Interface.onNic,
  Interface.takeIdentification
-/
import NetStack.Arp.Cache
import NetStack.Config
import NetStack.Nic
import NetStack.Tcp.Pool

namespace NetStack

structure Interface where
  nic : Nic
  config : Config
  cache : Arp.Cache
  pool : Tcp.Pool
  /-- The identification of the next IPv4 packet. -/
  identification : UInt16

namespace Interface

/-- An interface over an attached adapter: the host's binding is pinned, and
every channel listens. -/
def fresh (nic : Nic) (config : Config) : Interface :=
  { nic
    config
    cache := .pinning config.hostAddress config.hostMac
    pool := .listening config.address config.hostAddress
    identification := 0 }

/-- What is reported when an interface comes up. -/
def announcements (nic : Nic) (config : Config) : List Event :=
  let mismatch :=
    if nic.macAddress = config.mac then [] else [.addressMismatch nic.macAddress config.mac]
  mismatch ++ [.interfaceUp config.address config.hostAddress]

/-- Attach to an adapter and bring an interface up over it. -/
def bringUp (adapter : Adapter) (clock : StepClock) (addresses : BusAddresses) (config : Config) :
    Step Interface Unit :=
  let attached := Nic.attach adapter clock addresses
  { result := attached.result
    state := fresh attached.state config
    events := attached.events ++ announcements attached.state config }

/-- Do something with the adapter only. -/
def onNic {α : Type} (action : Action Nic α) : Action Interface α :=
  Action.zoom Interface.nic (fun interface nic => { interface with nic }) action

/-- Take the next identification.  The numbers wrap at 16 bits. -/
def takeIdentification : Action Interface UInt16 := do
  let interface ← Action.get
  Action.modify fun interface =>
    { interface with identification := interface.identification + 1 }
  return interface.identification

/-- Put a channel in the place of the one at `index`. -/
def setChannel (index : Fin Tcp.poolSize) (channel : Tcp.Channel) : Action Interface Unit :=
  Action.modify fun interface => { interface with pool := interface.pool.set index channel }

end Interface

end NetStack
