/-
Module: NetStack.Proofs.Arp.FirstCome
Purpose: The table of bindings as a bounded first-come map: which addresses it
  holds, in which slots, and that each is bound to where it was seen last.
Main exports:
  Arp.Binding, Arp.newcomers, Arp.kept, Arp.latest?, Arp.Cache.observeAll,
  Arp.Cache.Becomes, Arp.Cache.table, Arp.Admissible, Arp.Sees,
  Arp.Admissible.observe_table, Arp.Holds, Arp.exists_holds, Arp.lookup_observeAll,
  Arp.Cache.Admits, Arp.lookup_admitted, Arp.lookup_of_free, Arp.lookup_of_full,
  Arp.first_come_first_kept
-/
import Mathlib.Data.List.Induction
import Mathlib.Data.List.Infix
import Mathlib.Data.List.Nodup
import NetStack.Proofs.Arp.Cache

namespace NetStack.Arp

/-!
The slots of the table are a picture of a shorter list: the bindings learned so
far, in the order in which their addresses were first seen.  Behind them come the
free slots, and the pinned binding last of all.  A sighting does one of four
things to that list, and the table always follows it.  Which addresses are in the
list, and with which hardware addresses, is then a matter of the sightings alone.
-/

/-- An address, and a hardware address at which it is or was seen. -/
structure Binding where
  address : Ipv4Address
  mac : MacAddress
deriving Repr, Inhabited, DecidableEq

/-! ## What the sightings say -/

/-- The addresses that were seen, the pinned one apart, in the order in which they
were first seen. -/
def newcomers (pinned : Ipv4Address) (sightings : List Binding) : List Ipv4Address :=
  ((sightings.map Binding.address).filter fun address => address ≠ pinned).eraseDups

/-- Where an address was seen last. -/
def latest? (sightings : List Binding) (address : Ipv4Address) : Option MacAddress :=
  (sightings.filter fun seen => seen.address = address).getLast?.map Binding.mac

/-- One more sighting adds an address unless it is pinned or was seen before. -/
theorem newcomers_concat (pinned : Ipv4Address) (sightings : List Binding) (seen : Binding) :
    newcomers pinned (sightings ++ [seen]) =
      newcomers pinned sightings ++
        if seen.address = pinned ∨ seen.address ∈ newcomers pinned sightings then []
        else [seen.address] := by
  have once (known : List Ipv4Address) (address : Ipv4Address) :
      (known ++ [address]).eraseDups =
        known.eraseDups ++ if address ∈ known.eraseDups then [] else [address] := by
    rw [List.eraseDups_append]
    by_cases old : address ∈ known <;> simp [old, List.removeAll, List.eraseDups_cons]
  unfold newcomers
  rw [List.map_append, List.filter_append]
  by_cases same : seen.address = pinned
  · simp [same]
  · have kept : ([seen].map Binding.address).filter (fun address => address ≠ pinned) =
        [seen.address] := by simp [same]
    rw [kept, once]
    simp only [same, false_or]

theorem nodup_newcomers (pinned : Ipv4Address) (sightings : List Binding) :
    (newcomers pinned sightings).Nodup := by
  induction sightings using List.reverseRecOn with
  | nil => exact List.nodup_nil
  | append_singleton sightings seen inductiveHypothesis =>
      rw [newcomers_concat]
      split
      · rwa [List.append_nil]
      · next new =>
        rw [← List.concat_eq_append, List.nodup_concat]
        exact ⟨(not_or.mp new).2, inductiveHypothesis⟩

theorem pinned_notMem_newcomers (pinned : Ipv4Address) (sightings : List Binding) :
    pinned ∉ newcomers pinned sightings := by
  simp [newcomers]

/-- Later sightings leave the newcomers so far in their places. -/
theorem isPrefix_newcomers (pinned : Ipv4Address) (earlier later : List Binding) :
    newcomers pinned earlier <+: newcomers pinned (earlier ++ later) := by
  unfold newcomers
  rw [List.map_append, List.filter_append, List.eraseDups_append]
  exact List.prefix_append _ _

/-- The newcomers that find a slot: there are 31 beside the pinned one. -/
def kept (pinned : Ipv4Address) (sightings : List Binding) : List Ipv4Address :=
  (newcomers pinned sightings).take 31

/-- Whoever has a slot keeps it. -/
theorem mem_kept_append {pinned address : Ipv4Address} {earlier : List Binding}
    (known : address ∈ kept pinned earlier) (later : List Binding) :
    address ∈ kept pinned (earlier ++ later) :=
  (List.IsPrefix.take (isPrefix_newcomers pinned earlier later) 31).subset known

/-- An address that is pinned or was seen before takes no slot. -/
theorem kept_concat_old {pinned : Ipv4Address} {sightings : List Binding} {seen : Binding}
    (old : seen.address = pinned ∨ seen.address ∈ newcomers pinned sightings) :
    kept pinned (sightings ++ [seen]) = kept pinned sightings := by
  rw [kept, newcomers_concat, if_pos old, List.append_nil, kept]

/-- A new address takes the next slot. -/
theorem kept_concat_new {pinned : Ipv4Address} {sightings : List Binding} {seen : Binding}
    (new : ¬(seen.address = pinned ∨ seen.address ∈ newcomers pinned sightings))
    (room : (newcomers pinned sightings).length < 31) :
    kept pinned (sightings ++ [seen]) = kept pinned sightings ++ [seen.address] := by
  have fits : (newcomers pinned sightings ++ [seen.address]).length ≤ 31 := by
    rw [List.length_append]
    exact room
  rw [kept, newcomers_concat, if_neg new, List.take_of_length_le fits, kept,
    List.take_of_length_le (Nat.le_of_lt room)]

/-- Whoever is seen while a slot is free has one from then on. -/
theorem mem_kept_of_room {pinned : Ipv4Address} {earlier : List Binding} {seen : Binding}
    (unpinned : seen.address ≠ pinned) (room : (newcomers pinned earlier).length < 31)
    (later : List Binding) : seen.address ∈ kept pinned (earlier ++ seen :: later) := by
  have now : seen.address ∈ kept pinned (earlier ++ [seen]) := by
    by_cases known : seen.address ∈ newcomers pinned earlier
    · rw [kept_concat_old (.inr known), kept, List.take_of_length_le (Nat.le_of_lt room)]
      exact known
    · rw [kept_concat_new (not_or.mpr ⟨unpinned, known⟩) room]
      exact List.mem_append_right _ (List.mem_singleton_self _)
  rw [← List.singleton_append, ← List.append_assoc]
  exact mem_kept_append now later

/-- Once no slot is free, nobody gets one. -/
theorem kept_of_full {pinned : Ipv4Address} {earlier : List Binding}
    (full : 31 ≤ (newcomers pinned earlier).length) (later : List Binding) :
    kept pinned (earlier ++ later) = kept pinned earlier := by
  obtain ⟨more, joined⟩ := isPrefix_newcomers pinned earlier later
  rw [kept, kept, ← joined, List.take_append_of_le_length full]

/-- A sighting gives nobody else a slot. -/
theorem mem_kept_concat_other {pinned address : Ipv4Address} {sightings : List Binding}
    {seen : Binding} (other : address ≠ seen.address) :
    address ∈ kept pinned (sightings ++ [seen]) ↔ address ∈ kept pinned sightings := by
  by_cases old : seen.address = pinned ∨ seen.address ∈ newcomers pinned sightings
  · rw [kept_concat_old old]
  · by_cases room : (newcomers pinned sightings).length < 31
    · rw [kept_concat_new old room]
      simp [other]
    · rw [kept_of_full (Nat.le_of_not_lt room)]

theorem latest?_concat (sightings : List Binding) (seen : Binding) (address : Ipv4Address) :
    latest? (sightings ++ [seen]) address =
      if seen.address = address then some seen.mac else latest? sightings address := by
  unfold latest?
  rw [List.filter_append]
  split
  · next same => simp [same]
  · next other => simp [other]

namespace Cache

/-- The table after a series of sightings. -/
def observeAll (cache : Cache) (sightings : List Binding) : Cache :=
  sightings.foldl (fun cache seen => (cache.observe seen.address seen.mac).2) cache

theorem observeAll_append (cache : Cache) (earlier later : List Binding) :
    cache.observeAll (earlier ++ later) = (cache.observeAll earlier).observeAll later :=
  List.foldl_append

/-- The learned bindings in front, the pinned one last, and free slots between
them. -/
def table (pinned : Binding) (learned : List Binding) : Cache :=
  ⟨learned.map (fun binding => .learned binding.address binding.mac) ++
    (List.replicate (31 - learned.length) .free ++ [.pinned pinned.address pinned.mac])⟩

/-- A table after some sightings of another one. -/
def Becomes (cache later : Cache) : Prop :=
  ∃ sightings, later = cache.observeAll sightings

theorem Becomes.refl (cache : Cache) : cache.Becomes cache :=
  ⟨[], rfl⟩

theorem Becomes.trans {cache middle later : Cache} (first : cache.Becomes middle)
    (second : middle.Becomes later) : cache.Becomes later := by
  obtain ⟨earlier, rfl⟩ := first
  obtain ⟨further, rfl⟩ := second
  exact ⟨earlier ++ further, (observeAll_append cache earlier further).symm⟩

theorem pinning_eq_table (pinned : Binding) :
    pinning pinned.address pinned.mac = table pinned [] := rfl

end Cache

/-- Bindings that a table can hold beside the pinned one: no address twice. -/
structure Admissible (pinned : Binding) (learned : List Binding) : Prop where
  distinct : (learned.map Binding.address).Nodup
  unpinned : pinned.address ∉ learned.map Binding.address
  short : learned.length ≤ 31

namespace Admissible

variable {pinned seen : Binding} {learned : List Binding} {address : Ipv4Address}
  {index : Nat} {slot : Slot}

open Cache (table)

theorem length_table (admissible : Admissible pinned learned) :
    (table pinned learned).slots.length = 32 := by
  have short := admissible.short
  simp only [table, List.length_append, List.length_map, List.length_replicate,
    List.length_singleton]
  omega

theorem slot?_learned {binding : Binding} (found : learned[index]? = some binding) :
    (table pinned learned).slot? index = some (.learned binding.address binding.mac) := by
  obtain ⟨inside, -⟩ := List.getElem?_eq_some_iff.mp found
  rw [Cache.slot?, table, List.getElem?_append_left (by simpa using inside), List.getElem?_map,
    found]
  rfl

theorem slot?_free (behind : learned.length ≤ index) (before : index < 31) :
    (table pinned learned).slot? index = some .free := by
  rw [Cache.slot?, table, List.getElem?_append_right (by simpa using behind), List.length_map,
    List.getElem?_append_left (by rw [List.length_replicate]; omega),
    List.getElem?_replicate_of_lt (by omega)]

theorem slot?_pinned (admissible : Admissible pinned learned) :
    (table pinned learned).slot? 31 = some (.pinned pinned.address pinned.mac) := by
  have short := admissible.short
  rw [Cache.slot?, table, List.getElem?_append_right (by simpa using short), List.length_map,
    List.getElem?_append_right (by simp), List.length_replicate, Nat.sub_self]
  rfl

/-- A slot that binds an address is the one of its learned binding, or the last. -/
theorem binds_cases (admissible : Admissible pinned learned)
    (found : (table pinned learned).slot? index = some slot)
    (binds : slot.binds address = true) :
    (∃ binding, learned[index]? = some binding ∧ binding.address = address) ∨
      index = 31 ∧ pinned.address = address := by
  obtain ⟨inside, -⟩ := List.getElem?_eq_some_iff.mp found
  rw [admissible.length_table] at inside
  by_cases early : index < learned.length
  · have learnt := List.getElem?_eq_getElem early
    rw [slot?_learned learnt] at found
    obtain rfl := Option.some.inj found
    exact .inl ⟨_, learnt, by simpa [Slot.binds, Slot.binding?] using binds⟩
  · by_cases last : index = 31
    · subst last
      rw [admissible.slot?_pinned] at found
      obtain rfl := Option.some.inj found
      exact .inr ⟨rfl, by simpa [Slot.binds, Slot.binding?] using binds⟩
    · rw [slot?_free (Nat.le_of_not_lt early) (by omega)] at found
      obtain rfl := Option.some.inj found
      cases binds

/-- No address has two places in the list. -/
theorem place_unique (admissible : Admissible pinned learned) {other : Nat}
    {one twin : Binding} (found : learned[index]? = some one)
    (alsoFound : learned[other]? = some twin) (same : one.address = twin.address) :
    index = other := by
  have named : (learned.map Binding.address)[index]? = some one.address := by
    rw [List.getElem?_map, found, Option.map_some]
  have alsoNamed : (learned.map Binding.address)[other]? = some one.address := by
    rw [List.getElem?_map, alsoFound, Option.map_some, same]
  obtain ⟨inside, -⟩ := List.getElem?_eq_some_iff.mp named
  exact (List.getElem?_inj inside admissible.distinct).mp (named.trans alsoNamed.symm)

/-- No address has two slots. -/
theorem binds_unique (admissible : Admissible pinned learned) {other : Nat} {otherSlot : Slot}
    (found : (table pinned learned).slot? index = some slot)
    (alsoFound : (table pinned learned).slot? other = some otherSlot)
    (binds : slot.binds address = true) (alsoBinds : otherSlot.binds address = true) :
    index = other := by
  have apart {place : Nat} {binding : Binding} (here : learned[place]? = some binding)
      (same : binding.address = address) : pinned.address ≠ address := by
    rintro rfl
    exact admissible.unpinned (List.mem_map.mpr ⟨binding, List.mem_of_getElem? here, same⟩)
  rcases admissible.binds_cases found binds with ⟨binding, here, same⟩ | ⟨rfl, same⟩
  · rcases admissible.binds_cases alsoFound alsoBinds with ⟨twin, there, alsoSame⟩ | ⟨-, clash⟩
    · exact admissible.place_unique here there (same.trans alsoSame.symm)
    · exact absurd clash (apart here same)
  · rcases admissible.binds_cases alsoFound alsoBinds with ⟨twin, there, alsoSame⟩ | ⟨rfl, -⟩
    · exact absurd same (apart there alsoSame)
    · rfl

/-- A slot that binds an address is the one at which the address is found. -/
theorem findIdx?_binds (admissible : Admissible pinned learned)
    (found : (table pinned learned).slot? index = some slot)
    (binds : slot.binds address = true) :
    (table pinned learned).slots.findIdx? (Slot.binds address) = some index := by
  obtain ⟨inside, here⟩ := List.getElem?_eq_some_iff.mp found
  rw [List.findIdx?_eq_some_iff_getElem]
  refine ⟨inside, here ▸ binds, ?_⟩
  intro other before alsoBinds
  have alsoFound : (table pinned learned).slot? other = some _ :=
    List.getElem?_eq_getElem (Nat.lt_trans before inside)
  exact Nat.ne_of_lt before (admissible.binds_unique alsoFound found alsoBinds binds)

theorem lookup_of_slot (admissible : Admissible pinned learned)
    (found : (table pinned learned).slot? index = some slot) {mac : MacAddress}
    (holds : slot.binding? = some (address, mac)) :
    (table pinned learned).lookup address = some mac := by
  have binds : slot.binds address = true := by simp [Slot.binds, holds]
  have first : (table pinned learned).slots.find? (Slot.binds address) = some slot := by
    obtain ⟨inside, here⟩ := List.getElem?_eq_some_iff.mp found
    obtain ⟨_, -, earlier⟩ :=
      List.findIdx?_eq_some_iff_getElem.mp (admissible.findIdx?_binds found binds)
    rw [List.find?_eq_some_iff_getElem]
    exact ⟨binds, index, inside, here, fun other before => by simpa using earlier other before⟩
  rw [Cache.lookup, first, Option.bind_some, holds]
  rfl

theorem lookup_learned (admissible : Admissible pinned learned) {binding : Binding}
    (member : binding ∈ learned) :
    (table pinned learned).lookup binding.address = some binding.mac := by
  obtain ⟨index, found⟩ := List.getElem?_of_mem member
  exact admissible.lookup_of_slot (slot?_learned found) rfl

theorem lookup_pinned (admissible : Admissible pinned learned) :
    (table pinned learned).lookup pinned.address = some pinned.mac :=
  admissible.lookup_of_slot admissible.slot?_pinned rfl

/-- An address that is neither pinned nor learned is bound by no slot. -/
theorem binds_eq_false (admissible : Admissible pinned learned)
    (unpinned : address ≠ pinned.address) (unlearned : address ∉ learned.map Binding.address) :
    ∀ slot ∈ (table pinned learned).slots, slot.binds address = false := by
  intro slot member
  obtain ⟨index, found⟩ := List.getElem?_of_mem member
  cases binds : slot.binds address with
  | false => rfl
  | true =>
      rcases admissible.binds_cases found binds with ⟨binding, here, same⟩ | ⟨-, same⟩
      · exact absurd (List.mem_map.mpr ⟨binding, List.mem_of_getElem? here, same⟩) unlearned
      · exact absurd same.symm unpinned

theorem lookup_unknown (admissible : Admissible pinned learned)
    (unpinned : address ≠ pinned.address) (unlearned : address ∉ learned.map Binding.address) :
    (table pinned learned).lookup address = none := by
  have nowhere : (table pinned learned).slots.find? (Slot.binds address) = none := by
    rw [List.find?_eq_none]
    intro slot member
    simp [admissible.binds_eq_false unpinned unlearned slot member]
  rw [Cache.lookup, nowhere]
  rfl

/-- One slot is in use for every learned binding, and one for the pinned one. -/
theorem size_table (pinned : Binding) (learned : List Binding) :
    (table pinned learned).size = learned.length + 1 := by
  simp [Cache.size, table, List.countP_append, List.countP_map, List.countP_replicate,
    Slot.isFree, Slot.binding?, Function.comp_def]

end Admissible

/-! ## What a sighting does -/

/-- The four things that a sighting may do to the learned bindings, and how each is
reported. -/
inductive Sees (pinned : Binding) (learned : List Binding) (seen : Binding) :
    Observation → List Binding → Prop where
  | pinned (same : seen.address = pinned.address) : Sees pinned learned seen (.pinned 31) learned
  | refreshed {index : Nat} {binding : Binding} (found : learned[index]? = some binding)
      (same : binding.address = seen.address) :
      Sees pinned learned seen (.refreshed index) (learned.set index seen)
  | inserted (unpinned : seen.address ≠ pinned.address)
      (unlearned : seen.address ∉ learned.map Binding.address) (room : learned.length < 31) :
      Sees pinned learned seen (.inserted learned.length) (learned ++ [seen])
  | tableFull (unpinned : seen.address ≠ pinned.address)
      (unlearned : seen.address ∉ learned.map Binding.address) (full : learned.length = 31) :
      Sees pinned learned seen .tableFull learned

section Step

variable {pinned seen : Binding} {learned : List Binding}

open Cache (table)

/-- A binding is written over in its place. -/
theorem set_table {index : Nat} (inside : index < learned.length) :
    (⟨(table pinned learned).slots.set index (.learned seen.address seen.mac)⟩ : Cache) =
      table pinned (learned.set index seen) := by
  rw [table, table, List.set_append_left _ _ (by simpa using inside), List.length_set,
    ← List.map_set]

/-- A new binding takes the first free slot. -/
theorem set_table_free (room : learned.length < 31) :
    (⟨(table pinned learned).slots.set learned.length (.learned seen.address seen.mac)⟩ :
      Cache) = table pinned (learned ++ [seen]) := by
  obtain ⟨left, counts⟩ : ∃ left, 31 - learned.length = left + 1 :=
    ⟨31 - learned.length - 1, by omega⟩
  have fewer : 31 - (learned ++ [seen]).length = left := by
    rw [List.length_append, List.length_singleton]
    omega
  rw [table, table, fewer, counts, List.set_append_right _ _ (by simp), List.length_map,
    Nat.sub_self, List.replicate_succ, List.map_append]
  simp

theorem findIdx?_isFree (pinned : Binding) (learned : List Binding) :
    (table pinned learned).slots.findIdx? Slot.isFree =
      if learned.length < 31 then some learned.length else none := by
  have learnedTaken : (learned.map fun binding =>
      Slot.learned binding.address binding.mac).findIdx? Slot.isFree = none := by
    simp [List.findIdx?_eq_none_iff, Slot.isFree, Slot.binding?]
  rw [table, List.findIdx?_append, learnedTaken, List.findIdx?_append, List.findIdx?_replicate]
  have free : Slot.isFree .free = true := rfl
  by_cases room : learned.length < 31
  · rw [if_pos ⟨Nat.sub_pos_of_lt room, free⟩, if_pos room]
    simp
  · rw [if_neg fun left => room (Nat.lt_of_sub_pos left.1), if_neg room]
    rfl

namespace Admissible

theorem observe_pinned (admissible : Admissible pinned learned) (seen : Binding)
    (same : seen.address = pinned.address) :
    (table pinned learned).observe seen.address seen.mac = (.pinned 31, table pinned learned) := by
  have here : (table pinned learned).slots[31]? = _ := admissible.slot?_pinned
  rw [same, Cache.observe, admissible.findIdx?_binds admissible.slot?_pinned
    (by simp [Slot.binds, Slot.binding?])]
  dsimp only
  rw [here]

theorem observe_learned (admissible : Admissible pinned learned) (seen : Binding)
    {index : Nat} {binding : Binding} (found : learned[index]? = some binding)
    (same : binding.address = seen.address) :
    (table pinned learned).observe seen.address seen.mac =
      (.refreshed index, table pinned (learned.set index seen)) := by
  obtain ⟨inside, -⟩ := List.getElem?_eq_some_iff.mp found
  have here : (table pinned learned).slots[index]? = _ := slot?_learned found
  rw [Cache.observe, ← same, admissible.findIdx?_binds (slot?_learned found)
    (by simp [Slot.binds, Slot.binding?])]
  dsimp only
  rw [here]
  dsimp only
  rw [same, set_table inside]

/-- A new address is offered the first free slot. -/
theorem observe_unknown (admissible : Admissible pinned learned) (seen : Binding)
    (unpinned : seen.address ≠ pinned.address)
    (unlearned : seen.address ∉ learned.map Binding.address) :
    (table pinned learned).observe seen.address seen.mac =
      if learned.length < 31 then (.inserted learned.length, table pinned (learned ++ [seen]))
      else (.tableFull, table pinned learned) := by
  have nowhere : (table pinned learned).slots.findIdx? (Slot.binds seen.address) = none :=
    List.findIdx?_eq_none_iff.mpr (admissible.binds_eq_false unpinned unlearned)
  rw [Cache.observe, nowhere]
  dsimp only
  rw [Cache.insert, findIdx?_isFree]
  by_cases room : learned.length < 31
  · rw [if_pos room, if_pos room, ← set_table_free room]
  · rw [if_neg room, if_neg room]

/-- The table follows the list. -/
theorem observe_table (admissible : Admissible pinned learned) (seen : Binding) :
    ∃ observation after, Sees pinned learned seen observation after ∧
      (table pinned learned).observe seen.address seen.mac =
        (observation, table pinned after) := by
  by_cases same : seen.address = pinned.address
  · exact ⟨_, _, .pinned same, admissible.observe_pinned seen same⟩
  · by_cases known : seen.address ∈ learned.map Binding.address
    · obtain ⟨binding, member, named⟩ := List.mem_map.mp known
      obtain ⟨index, found⟩ := List.getElem?_of_mem member
      exact ⟨_, _, .refreshed found named, admissible.observe_learned seen found named⟩
    · have answered := admissible.observe_unknown seen same known
      by_cases room : learned.length < 31
      · rw [if_pos room] at answered
        exact ⟨_, _, .inserted same known room, answered⟩
      · have full : learned.length = 31 :=
          Nat.le_antisymm admissible.short (Nat.le_of_not_lt room)
        rw [if_neg room] at answered
        exact ⟨_, _, .tableFull same known full, answered⟩

end Admissible

end Step

/-! ## Whole histories -/

/-- The bindings that are learned from a series of sightings: those of the first 31
newcomers, each with where its address was seen last. -/
structure Holds (pinned : Binding) (sightings learned : List Binding) : Prop where
  addresses : learned.map Binding.address = kept pinned.address sightings
  latest : ∀ binding ∈ learned, latest? sightings binding.address = some binding.mac

namespace Holds

variable {pinned seen : Binding} {sightings learned after : List Binding}
  {observation : Observation} {index : Nat}

theorem length_eq (holds : Holds pinned sightings learned) :
    learned.length = min 31 (newcomers pinned.address sightings).length := by
  rw [← List.length_map Binding.address, holds.addresses, kept, List.length_take]

theorem admissible (holds : Holds pinned sightings learned) : Admissible pinned learned where
  distinct := by
    rw [holds.addresses]
    exact (nodup_newcomers _ _).sublist (List.take_sublist _ _)
  unpinned := by
    rw [holds.addresses]
    exact fun member => pinned_notMem_newcomers _ _ (List.mem_of_mem_take member)
  short := holds.length_eq ▸ Nat.min_le_left _ _

/-- The newcomer in a place is the address that was learned there. -/
theorem getElem?_newcomers (holds : Holds pinned sightings learned) {binding : Binding}
    (found : learned[index]? = some binding) :
    (newcomers pinned.address sightings)[index]? = some binding.address := by
  have short := holds.admissible.short
  obtain ⟨inside, -⟩ := List.getElem?_eq_some_iff.mp found
  have placed : (learned.map Binding.address)[index]? = some binding.address := by
    rw [List.getElem?_map, found, Option.map_some]
  rwa [holds.addresses, kept, List.getElem?_take_of_lt (Nat.lt_of_lt_of_le inside short)] at placed

/-- What was learned of other addresses stays as it was. -/
theorem latest_other (holds : Holds pinned sightings learned) {binding : Binding}
    (member : binding ∈ learned) (other : seen.address ≠ binding.address) :
    latest? (sightings ++ [seen]) binding.address = some binding.mac := by
  rw [latest?_concat, if_neg other]
  exact holds.latest binding member

/-- The list keeps step with the sightings. -/
theorem sees (holds : Holds pinned sightings learned)
    (sees : Sees pinned learned seen observation after) :
    Holds pinned (sightings ++ [seen]) after := by
  have listed (address : Ipv4Address) (known : address ∈ learned.map Binding.address) :
      address ∈ newcomers pinned.address sightings := by
    rw [holds.addresses] at known
    exact List.mem_of_mem_take known
  cases sees with
  | pinned same =>
      constructor
      · rw [kept_concat_old (.inl same)]
        exact holds.addresses
      · intro binding member
        refine holds.latest_other member ?_
        rw [same]
        exact fun clash => holds.admissible.unpinned (List.mem_map.mpr ⟨binding, member, clash.symm⟩)
  | @refreshed index binding found same =>
      obtain ⟨inside, here⟩ := List.getElem?_eq_some_iff.mp found
      have known := listed _ (List.mem_map.mpr ⟨binding, List.mem_of_getElem? found, same⟩)
      constructor
      · have placed : (learned.map Binding.address)[index]? = some seen.address := by
          rw [List.getElem?_map, found, Option.map_some, same]
        obtain ⟨listedInside, named⟩ := List.getElem?_eq_some_iff.mp placed
        rw [kept_concat_old (.inr known), ← holds.addresses, List.map_set, ← named,
          List.set_getElem_self]
      · intro binding member
        obtain ⟨place, placed⟩ := List.getElem?_of_mem member
        by_cases there : index = place
        · subst there
          rw [List.getElem?_set_self inside] at placed
          cases placed
          rw [latest?_concat, if_pos rfl]
        · rw [List.getElem?_set_ne there] at placed
          refine holds.latest_other (List.mem_of_getElem? placed) ?_
          rw [← same]
          exact fun clash => there (holds.admissible.place_unique found placed clash)
  | inserted unpinned unlearned room =>
      have few : (newcomers pinned.address sightings).length < 31 := by
        have length := holds.length_eq
        omega
      have new : ¬(seen.address = pinned.address ∨
          seen.address ∈ newcomers pinned.address sightings) := by
        rw [holds.addresses, kept, List.take_of_length_le (Nat.le_of_lt few)] at unlearned
        exact not_or.mpr ⟨unpinned, unlearned⟩
      constructor
      · rw [kept_concat_new new few, List.map_append, holds.addresses, List.map_singleton]
      · intro binding member
        rcases List.mem_append.mp member with old | last
        · refine holds.latest_other old ?_
          exact fun clash => unlearned (List.mem_map.mpr ⟨binding, old, clash.symm⟩)
        · obtain rfl := List.mem_singleton.mp last
          rw [latest?_concat, if_pos rfl]
  | tableFull unpinned unlearned full =>
      have many : 31 ≤ (newcomers pinned.address sightings).length := by
        have length := holds.length_eq
        omega
      constructor
      · rw [kept_of_full many]
        exact holds.addresses
      · intro binding member
        refine holds.latest_other member ?_
        exact fun clash => unlearned (List.mem_map.mpr ⟨binding, member, clash.symm⟩)

end Holds

/-- After any sightings the table shows what they amount to. -/
theorem exists_holds (pinned : Binding) (sightings : List Binding) :
    ∃ learned, Holds pinned sightings learned ∧
      (Cache.pinning pinned.address pinned.mac).observeAll sightings =
        Cache.table pinned learned := by
  induction sightings using List.reverseRecOn with
  | nil => exact ⟨[], ⟨rfl, nofun⟩, Cache.pinning_eq_table pinned⟩
  | append_singleton sightings seen inductiveHypothesis =>
      obtain ⟨learned, holds, shows⟩ := inductiveHypothesis
      obtain ⟨observation, after, sees, follows⟩ := holds.admissible.observe_table seen
      refine ⟨after, holds.sees sees, ?_⟩
      rw [Cache.observeAll_append, shows]
      exact congrArg Prod.snd follows

/-- What is looked up after any sightings. -/
theorem lookup_observeAll (pinned : Binding) (sightings : List Binding) (address : Ipv4Address) :
    ((Cache.pinning pinned.address pinned.mac).observeAll sightings).lookup address =
      if address = pinned.address then some pinned.mac
      else if address ∈ kept pinned.address sightings then
        latest? sightings address
      else none := by
  obtain ⟨learned, holds, shows⟩ := exists_holds pinned sightings
  have admissible := holds.admissible
  rw [shows, ← holds.addresses]
  by_cases same : address = pinned.address
  · rw [if_pos same, same, admissible.lookup_pinned]
  · rw [if_neg same]
    by_cases known : address ∈ learned.map Binding.address
    · obtain ⟨binding, member, rfl⟩ := List.mem_map.mp known
      rw [if_pos known, admissible.lookup_learned member, holds.latest binding member]
    · rw [if_neg known, admissible.lookup_unknown same known]

section Reading

variable (pinned : Binding) (sightings : List Binding)

/-- Whoever has a slot has been seen. -/
theorem exists_latest {pinned : Binding} {sightings : List Binding} {address : Ipv4Address}
    (known : address ∈ kept pinned.address sightings) :
    ∃ mac, latest? sightings address = some mac := by
  obtain ⟨learned, holds, -⟩ := exists_holds pinned sightings
  rw [← holds.addresses] at known
  obtain ⟨binding, member, rfl⟩ := List.mem_map.mp known
  exact ⟨binding.mac, holds.latest binding member⟩

theorem lookup_eq_none_iff {address : Ipv4Address} :
    ((Cache.pinning pinned.address pinned.mac).observeAll sightings).lookup address = none ↔
      address ≠ pinned.address ∧ address ∉ kept pinned.address sightings := by
  rw [lookup_observeAll]
  by_cases same : address = pinned.address
  · simp [same]
  · by_cases known : address ∈ kept pinned.address sightings
    · obtain ⟨mac, seen⟩ := exists_latest known
      simp [same, known, seen]
    · simp [same, known]

/-- A slot is free as long as fewer than 31 addresses beside the pinned one were
seen. -/
theorem free_mem_slots_iff :
    Slot.free ∈ ((Cache.pinning pinned.address pinned.mac).observeAll sightings).slots ↔
      (newcomers pinned.address sightings).length < 31 := by
  obtain ⟨learned, holds, shows⟩ := exists_holds pinned sightings
  have length := holds.length_eq
  rw [shows, Cache.table]
  simp only [List.mem_append, List.mem_map, List.mem_replicate, List.mem_singleton]
  constructor
  · rintro (⟨binding, -, clash⟩ | ⟨left, -⟩ | clash)
    · cases clash
    · omega
    · cases clash
  · intro room
    exact .inr (.inl ⟨by omega, trivial⟩)

/-- Nothing but the pinned binding is ever pinned. -/
theorem pinned_mem_slots_iff {address : Ipv4Address} {mac : MacAddress} :
    Slot.pinned address mac ∈
        ((Cache.pinning pinned.address pinned.mac).observeAll sightings).slots ↔
      address = pinned.address ∧ mac = pinned.mac := by
  obtain ⟨learned, -, shows⟩ := exists_holds pinned sightings
  rw [shows, Cache.table]
  simp

end Reading

/-- A sighting of the address is recorded: it is not pinned, and it has a slot or finds
one free. -/
structure Cache.Admits (cache : Cache) (address : Ipv4Address) : Prop where
  unpinned : ∀ mac, Slot.pinned address mac ∉ cache.slots
  place : Slot.free ∈ cache.slots ∨ cache.lookup address ≠ none

/-- A sighting that is recorded binds its address, and no other. -/
theorem lookup_admitted {pinned : Binding} {sightings : List Binding} {cache : Cache}
    (shows : cache = (Cache.pinning pinned.address pinned.mac).observeAll sightings)
    (seen : Binding) (admits : cache.Admits seen.address) :
    (cache.observe seen.address seen.mac).2.lookup seen.address = some seen.mac ∧
      ∀ other, other ≠ seen.address →
        (cache.observe seen.address seen.mac).2.lookup other = cache.lookup other := by
  obtain ⟨free, place⟩ := admits
  rw [shows] at free place
  have follows : (cache.observe seen.address seen.mac).2 =
      (Cache.pinning pinned.address pinned.mac).observeAll (sightings ++ [seen]) := by
    rw [Cache.observeAll_append, shows]
    rfl
  have unpinned : seen.address ≠ pinned.address := fun same =>
    free pinned.mac ((pinned_mem_slots_iff pinned sightings).mpr ⟨same, rfl⟩)
  have known : seen.address ∈ kept pinned.address (sightings ++ [seen]) := by
    rcases place with room | bound
    · exact mem_kept_of_room unpinned ((free_mem_slots_iff pinned sightings).mp room) []
    · by_contra unknown
      refine bound ((lookup_eq_none_iff pinned sightings).mpr ⟨unpinned, ?_⟩)
      exact fun old => unknown (mem_kept_append old [seen])
  rw [follows, shows]
  constructor
  · rw [lookup_observeAll, if_neg unpinned, if_pos known, latest?_concat, if_pos rfl]
  · intro other apart
    rw [lookup_observeAll, lookup_observeAll, latest?_concat, if_neg (Ne.symm apart)]
    simp only [mem_kept_concat_other apart]

/-- The table is a bounded first-come map.  After any sightings, the last slot holds
the pinned binding.  Below it, with `used` the number of distinct other addresses
seen, or 31 if there were more, the first `used` slots hold those addresses in the
order in which they were first seen, each with the hardware address at which it was
seen last, and the others are free.  No address has two slots; what is looked up is
what these slots say; and the size counts them.  A sighting of the pinned address
changes nothing; one of an address that has a slot is written into that slot; that of
another address takes the next slot, or changes nothing when there is none. -/
theorem first_come_first_kept (pinned : Binding) (sightings : List Binding) :
    let cache := (Cache.pinning pinned.address pinned.mac).observeAll sightings
    let seen := newcomers pinned.address sightings
    let used := min 31 seen.length
    cache.slots.length = 32 ∧
      cache.slot? 31 = some (.pinned pinned.address pinned.mac) ∧
      (∀ index < used, ∃ address mac, seen[index]? = some address ∧
        latest? sightings address = some mac ∧
        cache.slot? index = some (.learned address mac)) ∧
      (∀ index, used ≤ index → index < 31 → cache.slot? index = some .free) ∧
      (∀ address first second one other, cache.slot? first = some one →
        cache.slot? second = some other → one.binds address = true →
        other.binds address = true → first = second) ∧
      (∀ address, cache.lookup address =
        if address = pinned.address then some pinned.mac
        else if address ∈ seen.take 31 then latest? sightings address
        else none) ∧
      cache.size = used + 1 ∧
      ∀ address mac,
        let answer := (cache.observe address mac).1
        let after := (cache.observe address mac).2
        (address = pinned.address → answer = .pinned 31 ∧ after = cache) ∧
        (∀ index < used, seen[index]? = some address →
          answer = .refreshed index ∧
            after.slots = cache.slots.set index (.learned address mac)) ∧
        (address ≠ pinned.address → address ∉ seen.take 31 → used < 31 →
          answer = .inserted used ∧
            after.slots = cache.slots.set used (.learned address mac)) ∧
        (address ≠ pinned.address → address ∉ seen.take 31 → used = 31 →
          answer = .tableFull ∧ after = cache) := by
  intro cache seen used
  obtain ⟨learned, holds, shows⟩ := exists_holds pinned sightings
  have admissible := holds.admissible
  have shown : cache = Cache.table pinned learned := shows
  have counted : used = learned.length := holds.length_eq.symm
  have addresses : seen.take 31 = learned.map Binding.address := holds.addresses.symm
  refine ⟨?_, ?_, ?_, ?_, ?_, lookup_observeAll pinned sightings, ?_, ?_⟩
  · rw [shown]
    exact admissible.length_table
  · rw [shown]
    exact admissible.slot?_pinned
  · intro index inside
    rw [counted] at inside
    have found := List.getElem?_eq_getElem inside
    refine ⟨_, _, holds.getElem?_newcomers found,
      holds.latest _ (List.getElem_mem inside), ?_⟩
    rw [shown]
    exact Admissible.slot?_learned found
  · intro index behind before
    rw [shown]
    exact Admissible.slot?_free (counted ▸ behind) before
  · intro address first second one other found alsoFound
    rw [shown] at found alsoFound
    exact admissible.binds_unique found alsoFound
  · rw [shown, counted]
    exact Admissible.size_table pinned learned
  · intro address mac
    rw [counted, addresses, shown]
    refine ⟨?_, ?_, ?_, ?_⟩
    · intro same
      have answered := admissible.observe_pinned ⟨address, mac⟩ same
      exact Prod.mk.inj answered
    · intro index inside placed
      have found := List.getElem?_eq_getElem inside
      have named := (holds.getElem?_newcomers found).symm.trans placed
      have answered := admissible.observe_learned ⟨address, mac⟩ found
        (Option.some.inj named)
      rw [answered]
      exact ⟨rfl, congrArg Cache.slots (set_table inside).symm⟩
    · intro unpinned unlearned room
      have answered := admissible.observe_unknown ⟨address, mac⟩ unpinned unlearned
      rw [answered, if_pos room]
      exact ⟨rfl, congrArg Cache.slots (set_table_free room).symm⟩
    · intro unpinned unlearned full
      have answered := admissible.observe_unknown ⟨address, mac⟩ unpinned unlearned
      rw [answered, if_neg (Nat.not_lt.mpr (Nat.le_of_eq full.symm))]
      exact ⟨rfl, rfl⟩

end NetStack.Arp
