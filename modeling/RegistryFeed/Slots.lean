import RegistryFeed.Error

/-! # Slots

A fixed number of slots limits how many sessions live at one time. A slot taken is a permit with a
number of its own; giving it back frees one slot, and giving back what is not held does nothing. -/
namespace RegistryFeed

structure Slots where
  capacity : Nat
  held : List Nat
  issued : Nat
deriving DecidableEq, Repr

namespace Slots

/-- The greatest number of slots there can be: 2^61 − 1. -/
def maxCapacity : Nat := 2305843009213693951

/-- The number of slots for sessions where nothing else is said. -/
def sessionCapacity : Nat := 64

def create (capacity : Nat) : Except Fatal Slots :=
  if maxCapacity < capacity then .error .tooManySlots else .ok ⟨capacity, [], 0⟩

def available (s : Slots) : Nat := s.capacity - s.held.length

def isFull (s : Slots) : Bool := s.available == 0

/-- Takes a slot if one is free: its permit, and the slots after it. -/
def take? (s : Slots) : Option (Nat × Slots) :=
  if s.isFull then none
  else some (s.issued + 1, { s with held := s.held ++ [s.issued + 1], issued := s.issued + 1 })

def giveBack (s : Slots) (permit : Nat) : Slots := { s with held := s.held.erase permit }

theorem take?_eq_none_iff {s : Slots} : s.take? = none ↔ s.capacity ≤ s.held.length := by
  by_cases full : s.capacity ≤ s.held.length
  · simp [take?, isFull, available, Nat.sub_eq_zero_of_le full, full]
  · have : s.capacity - s.held.length ≠ 0 := by omega
    simp [take?, isFull, available, this, full]

/-- A free slot is given under the next number. -/
theorem take?_of_free {s : Slots} (free : s.held.length < s.capacity) :
    s.take? = some (s.issued + 1,
      { s with held := s.held ++ [s.issued + 1], issued := s.issued + 1 }) := by
  have : s.capacity - s.held.length ≠ 0 := by omega
  simp [take?, isFull, available, this]

end Slots

end RegistryFeed
