/-
Module: NetStack.Interface.Resolution
Purpose: Address resolution on the interface: asking, telling and learning.
Main exports:
  Interface.askAddress, Interface.tellAddress, Interface.resolve
-/
import NetStack.Arp.Message
import NetStack.Interface.Sending

namespace NetStack.Interface

/-- Ask everybody on the link who holds `target`. -/
def askAddress (target : Ipv4Address) : Action Interface Unit := do
  Action.emit (.addressAsked target)
  let interface ← Action.get
  let question := Arp.Message.request interface.config.mac interface.config.address target
  sendFrame (.outgoing .broadcast .arp) question.encode

/-- Tell whoever asked what our binding is. -/
def tellAddress (question : Arp.Message) : Action Interface Unit := do
  let interface ← Action.get
  Action.emit (.addressTold question.senderAddress interface.config.address)
  let answer := question.reply interface.config.mac interface.config.address
  sendFrame (.outgoing answer.targetMac .arp) answer.encode

/-- How a sighting is reported. -/
def sightingEvent (address : Ipv4Address) : Arp.Observation → Event
  | .inserted slot => .bindingLearned address slot
  | .refreshed slot => .bindingRefreshed slot
  | .pinned _ => .bindingPinned address
  | .tableFull => .tableFull address

/-- Take note of the sender's binding. -/
def learn (address : Ipv4Address) (mac : MacAddress) : Action Interface Unit := do
  let interface ← Action.get
  let (observation, cache) := interface.cache.observe address mac
  Action.modify fun interface => { interface with cache }
  Action.emit (sightingEvent address observation)

/-- Learn from a message that came in, and answer it if it asks for our
address.  Everything else is absorbed in silence. -/
def resolve (data : Bytes) : Action Interface Unit := do
  Action.emit .messageResolving
  let message ← Action.demand (Arp.Message.decode data) .truncated
  if message.hardwareType ≠ Arp.ethernetHardware then do
    Action.emit .hardwareUnsupported
    Action.refuse (.unsupportedHardwareType message.hardwareType)
  else if message.protocolType ≠ Arp.ipv4Protocol then do
    Action.emit .protocolUnsupported
    Action.refuse (.unsupportedProtocolType message.protocolType)
  else do
    learn message.senderAddress message.senderMac
    let interface ← Action.get
    if message.targetAddress = interface.config.address ∧ message.operation = .request then
      tellAddress message
    else
      Action.emit .requestSilent

end NetStack.Interface
