/-
Module: NetStack.Proofs.Tcp.Pool
Purpose: Which channel serves a port, in a pool whose channels kept their
  bindings.
Main exports:
  Tcp.Pool.Bound, Tcp.Pool.find?_eq_some_iff, Tcp.Pool.Bound.set,
  Tcp.Pool.localPort_injective
-/
import NetStack.Tcp.Pool

namespace NetStack.Tcp.Pool

/-- The channel of the web port. -/
def web : Fin poolSize := ⟨0, by decide⟩

theorem get_set (pool : Pool) (index other : Fin poolSize) (channel : Channel) :
    (pool.set index channel).get other = if index = other then channel else pool.get other := by
  split
  · next same =>
    rw [← same, get_set_same]
  · next different => exact get_set_other channel different

theorem set_set (pool : Pool) (index : Fin poolSize) (first second : Channel) :
    (pool.set index first).set index second = pool.set index second := by
  simp [set]

/-- To put a channel back where it is changes nothing. -/
theorem set_get (pool : Pool) (index : Fin poolSize) : pool.set index (pool.get index) = pool := by
  simp [set, get]

@[simp] theorem get_listening (localAddress defaultPeer : Ipv4Address) (index : Fin poolSize) :
    (listening localAddress defaultPeer).get index = initial localAddress defaultPeer index := by
  simp [get, listening]

/-- No two channels serve the same port. -/
theorem localPort_injective {index other : Fin poolSize}
    (same : localPort index = localPort other) : index = other := by
  have inside := index.isLt
  have otherInside := other.isLt
  have value (index : Nat) (inside : index < poolSize) :
      (localPort index).toNat = if index = 0 then 80 else 7999 + index := by
    cases index with
    | zero => rfl
    | succ index =>
        rw [if_neg (Nat.succ_ne_zero index)]
        show (UInt16.ofNat (portBase + (index + 1))).toNat = 7999 + (index + 1)
        rw [UInt16.toNat_ofNat']
        simp only [portBase, poolSize] at *
        omega
  have ports := congrArg UInt16.toNat same
  rw [value _ inside, value _ otherInside] at ports
  apply Fin.ext
  split at ports <;> split at ports <;> omega

/-- Every channel has the local end that it had at first. -/
def Bound (pool : Pool) (address : Ipv4Address) : Prop :=
  ∀ index : Fin poolSize, (pool.get index).host = ⟨address, localPort index⟩

variable {pool : Pool} {address : Ipv4Address}

theorem bound_listening (localAddress defaultPeer : Ipv4Address) :
    (listening localAddress defaultPeer).Bound localAddress := by
  intro index
  rw [get_listening]
  rfl

/-- A channel may be replaced by one with the same local end. -/
theorem Bound.set (bound : pool.Bound address) {index : Fin poolSize} {channel : Channel}
    (same : channel.host = (pool.get index).host) : (pool.set index channel).Bound address := by
  intro other
  rw [get_set]
  split
  · next here => rw [same, here, bound other]
  · exact bound other

/-- A port is served by the channel that was bound to it at first. -/
theorem find?_eq_some_iff (bound : pool.Bound address) {port : UInt16} {index : Fin poolSize} :
    pool.find? port = some index ↔ localPort index = port := by
  have served (index : Fin poolSize) :
      ((pool.get index).host.port == port) = true ↔ localPort index = port := by
    rw [bound index, beq_iff_eq]
  have serves_of_found {index : Fin poolSize} (found : pool.find? port = some index) :
      localPort index = port := by
    have matched := List.find?_some found
    exact (served index).mp matched
  constructor
  · exact serves_of_found
  · intro serves
    cases found : pool.find? port with
    | none =>
        have absent := List.find?_eq_none.mp found index (List.mem_finRange index)
        exact absurd ((served index).mpr serves) absent
    | some other =>
        rw [localPort_injective ((serves_of_found found).trans serves.symm)]

/-- Which channel serves a port does not depend on anything but the bindings. -/
theorem Bound.find?_eq {other : Pool} {otherAddress : Ipv4Address} (bound : pool.Bound address)
    (otherBound : other.Bound otherAddress) (port : UInt16) :
    pool.find? port = other.find? port := by
  apply Option.ext
  intro index
  rw [find?_eq_some_iff bound, find?_eq_some_iff otherBound]

end NetStack.Tcp.Pool
