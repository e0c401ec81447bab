/-
Module: NetStack.Proofs.Adapter.Queue
Purpose: A ring of slots seen as a queue, whatever its slots hold.
Main exports:
  RingShows, RingShows.push, RingShows.pop, RingShows.exchange
-/
import Mathlib.Data.Nat.ModEq

namespace NetStack

/-!
Both rings are used in the same way: from some first slot on, the slots hold
the items of a queue in order, and every slot past the last item is vacant.
Which side may touch a vacant slot, and what a slot looks like that holds an
item, differs between the rings and is left open here.
-/

/-- From slot `first` on, the ring holds the items in order, and no others. -/
structure RingShows {α β : Type} {size : Nat} (holds : α → Option β → Prop)
    (slots : Vector α size) (first : Nat) (items : List β) : Prop where
  fits : items.length ≤ size
  shown : ∀ (offset : Nat) (slot : α), offset < size →
    slots[(first + offset) % size]? = some slot → holds slot items[offset]?

namespace RingShows

variable {α β : Type} {size : Nat} {holds : α → Option β → Prop} {slots : Vector α size}
  {first : Nat} {items : List β}

/-- A ring of vacant slots is the empty queue. -/
theorem replicate {slot : α} (vacant : holds slot none) (first : Nat) :
    RingShows holds (Vector.replicate size slot) first ([] : List β) := by
  refine ⟨Nat.zero_le _, ?_⟩
  intro offset found inside here
  have same : found = slot := by
    rw [Vector.getElem?_eq_getElem (Nat.mod_lt _ (by omega))] at here
    simpa using here.symm
  subst same
  simpa using vacant

/-- Only the place of the first slot in the ring counts. -/
theorem congr (view : RingShows holds slots first items) (other : Nat)
    (same : other % size = first % size) : RingShows holds slots other items := by
  refine ⟨view.fits, ?_⟩
  intro offset slot inside here
  apply view.shown offset slot inside
  rwa [Nat.add_mod first, ← same, ← Nat.add_mod]

/-- The slot behind the last item is vacant, unless the ring is full. -/
theorem vacant_at_end {slot : α} (view : RingShows holds slots first items)
    (room : items.length < size)
    (here : slots[(first + items.length) % size]? = some slot) : holds slot none := by
  simpa using view.shown items.length slot room here

/-- The first slot holds the oldest item, if there is one. -/
theorem holds_head {slot : α} (view : RingShows holds slots first items)
    (here : slots[first % size]? = some slot) : holds slot items.head? := by
  have positive : 0 < size := by
    rcases Nat.eq_zero_or_pos size with empty | positive
    · subst empty
      simp at here
    · exact positive
  rw [List.head?_eq_getElem?]
  exact view.shown 0 slot positive (by simpa using here)

/-- Every item is in some slot. -/
theorem holds_mem {item : β} (view : RingShows holds slots first items) (member : item ∈ items) :
    ∃ index : Fin size, holds (slots.get index) (some item) := by
  obtain ⟨offset, inside, rfl⟩ := List.getElem_of_mem member
  have place : offset < size := Nat.lt_of_lt_of_le inside view.fits
  have around := Nat.mod_lt (first + offset) (Nat.zero_lt_of_lt place)
  have held := view.shown offset _ place (Vector.getElem?_eq_getElem around)
  rw [List.getElem?_eq_getElem inside] at held
  exact ⟨⟨(first + offset) % size, around⟩, held⟩

private theorem same_offset {left right : Nat} (leftInside : left < size)
    (rightInside : right < size) (same : (first + left) % size = (first + right) % size) :
    left = right := by
  have congruent : left ≡ right [MOD size] := Nat.ModEq.add_left_cancel' first same
  exact Nat.ModEq.eq_of_lt_of_lt congruent leftInside rightInside

/-- Filling the slot behind the last item adds an item. -/
theorem push {slot : α} {item : β} {index : Nat} (view : RingShows holds slots first items)
    (room : items.length < size) (inside : index < size)
    (place : index = (first + items.length) % size) (filled : holds slot (some item)) :
    RingShows holds (slots.set index slot) first (items ++ [item]) := by
  refine ⟨by simp; omega, ?_⟩
  intro offset found offsetInside here
  rw [Vector.getElem?_set, place] at here
  by_cases last : offset = items.length
  · subst last
    obtain rfl : slot = found := by simpa using here
    simpa using filled
  · have elsewhere : (first + items.length) % size ≠ (first + offset) % size := by
      intro same
      exact last (same_offset room offsetInside same).symm
    rw [if_neg elsewhere] at here
    have kept := view.shown offset found offsetInside here
    rcases Nat.lt_or_gt_of_ne last with before | behind
    · rwa [List.getElem?_append_left before]
    · rw [List.getElem?_eq_none (by omega)] at kept
      rwa [List.getElem?_eq_none (by simp; omega)]

/-- Vacating the first slot removes the oldest item. -/
theorem pop {slot : α} {item : β} {index : Nat}
    (view : RingShows holds slots first (item :: items)) (inside : index < size)
    (place : index = first % size) (vacated : holds slot none) :
    RingShows holds (slots.set index slot) (first + 1) items := by
  have fits := view.fits
  rw [List.length_cons] at fits
  refine ⟨by omega, ?_⟩
  intro offset found offsetInside here
  rw [Vector.getElem?_set, place] at here
  by_cases around : offset + 1 = size
  · -- the slot furthest from the new first one is the one just vacated
    have back : first % size = (first + 1 + offset) % size := by
      rw [show first + 1 + offset = first + size by omega, Nat.add_mod_right]
    rw [if_pos back] at here
    obtain rfl : slot = found := Option.some.inj here
    rw [List.getElem?_eq_none (by omega)]
    exact vacated
  · have elsewhere : first % size ≠ (first + 1 + offset) % size := by
      intro same
      have start : (first + 0) % size = (first + (offset + 1)) % size := by
        rw [Nat.add_zero, same]
        congr 1
        omega
      have := same_offset (by omega) (by omega) start
      omega
    rw [if_neg elsewhere, show first + 1 + offset = first + (offset + 1) by omega] at here
    simpa using view.shown (offset + 1) found (by omega) here

/-- Filling the first slot anew exchanges the oldest item. -/
theorem exchange {slot : α} {item other : β} {index : Nat}
    (view : RingShows holds slots first (item :: items)) (inside : index < size)
    (place : index = first % size) (filled : holds slot (some other)) :
    RingShows holds (slots.set index slot) first (other :: items) := by
  refine ⟨view.fits, ?_⟩
  intro offset found offsetInside here
  rw [Vector.getElem?_set, place] at here
  cases offset with
  | zero =>
      obtain rfl : slot = found := by simpa using here
      exact filled
  | succ offset =>
      have elsewhere : first % size ≠ (first + (offset + 1)) % size := by
        intro same
        have start : (first + 0) % size = (first + (offset + 1)) % size := same
        have := same_offset (by omega) offsetInside start
        omega
      rw [if_neg elsewhere] at here
      exact view.shown (offset + 1) found offsetInside here

end RingShows

end NetStack
