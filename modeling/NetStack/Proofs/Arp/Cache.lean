/-
Module: NetStack.Proofs.Arp.Cache
Purpose: What a sighting makes of the table of bindings.
Main exports:
  Arp.Cache.observe_cases, Arp.Cache.observe_observe
-/
import Mathlib.Data.List.Basic
import NetStack.Arp.Cache

namespace NetStack.Arp

namespace Slot

theorem binds_learned (address : Ipv4Address) (mac : MacAddress) :
    binds address (learned address mac) = true := by
  simp [binds, binding?]

end Slot

namespace Cache

variable {cache : Cache} {address : Ipv4Address} {mac : MacAddress} {index : Nat}

/-- The first slot that binds an address stays the first when it is written
over with a binding of that address. -/
theorem findIdx?_set_learned {slots : List Slot} (inside : index < slots.length)
    (earlier : ∀ (other : Nat) (before : other < index),
      Slot.binds address slots[other] = false) :
    (slots.set index (.learned address mac)).findIdx? (Slot.binds address) = some index := by
  rw [List.findIdx?_eq_some_iff_getElem]
  refine ⟨by simpa using inside, ?_, ?_⟩
  · rw [List.getElem_set_self]
    exact Slot.binds_learned address mac
  · intro other before
    rw [List.getElem_set_ne (Nat.ne_of_gt before), earlier other before]
    exact Bool.false_ne_true

/-- A table in which the address has its binding where it is first looked for is
not changed by one more sighting. -/
theorem observe_set_learned {slots : List Slot} (inside : index < slots.length)
    (earlier : ∀ (other : Nat) (before : other < index),
      Slot.binds address slots[other] = false) :
    (Cache.observe ⟨slots.set index (.learned address mac)⟩ address mac).2 =
      ⟨slots.set index (.learned address mac)⟩ := by
  have here : (slots.set index (.learned address mac))[index]? = some (.learned address mac) := by
    rw [List.getElem?_set_self inside]
  unfold observe
  rw [findIdx?_set_learned inside earlier]
  dsimp only
  rw [here]
  dsimp only
  rw [List.set_set]

/-- A sighting changes nothing, or it writes the binding into one slot, where it
is found first from then on. -/
theorem observe_cases (cache : Cache) (address : Ipv4Address) (mac : MacAddress) :
    (cache.observe address mac).2 = cache ∨
      ∃ (index : Nat) (_ : index < cache.slots.length),
        (∀ (other : Nat) (before : other < index),
          Slot.binds address cache.slots[other] = false) ∧
        (cache.observe address mac).2 = ⟨cache.slots.set index (.learned address mac)⟩ := by
  unfold observe
  split
  · next index bound =>
    obtain ⟨inside, -, earlier⟩ := List.findIdx?_eq_some_iff_getElem.mp bound
    split
    · right
      refine ⟨index, inside, ?_, rfl⟩
      intro other before
      simpa using earlier other before
    · exact .inl rfl
  · next unbound =>
    have unknown : ∀ slot ∈ cache.slots, Slot.binds address slot = false := by
      simpa using List.findIdx?_eq_none_iff.mp unbound
    unfold insert
    split
    · next index free =>
      obtain ⟨inside, -, -⟩ := List.findIdx?_eq_some_iff_getElem.mp free
      right
      exact ⟨index, inside, fun other _ => unknown _ (List.getElem_mem _), rfl⟩
    · exact .inl rfl

/-- To see the same station twice is to see it once. -/
theorem observe_observe (cache : Cache) (address : Ipv4Address) (mac : MacAddress) :
    ((cache.observe address mac).2.observe address mac).2 = (cache.observe address mac).2 := by
  rcases cache.observe_cases address mac with seen | ⟨index, inside, earlier, seen⟩
  · rw [seen, seen]
  · rw [seen]
    exact observe_set_learned inside earlier

end Cache

end NetStack.Arp
