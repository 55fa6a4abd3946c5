import RegistryFeed.Store.Basic
import RegistryFeed.Text.Numeral
import RegistryFeed.Time.Span

/-! # The leases of the store

A lock is free if it has no lease or its lease has expired; a lease expires at the very millisecond
it names. Giving back a lease removes it only while it is held by its owner, so a lease that was
taken over stays with the new owner. -/
namespace RegistryFeed.Store

def leaseOf (s : Store) (name : String) : Option Lease := s.leases.find? (·.name = name)

/-- The time at which a lease taken now expires, at most the greatest one there is. -/
def expiry (now : Int) (ttl : Span) : Int :=
  min (now + min (ttl.millis : Int) Text.maxInt64) Text.maxInt64

/-- Takes the lock for an owner if it is free at the given time. -/
def tryAcquire (s : Store) (name owner : String) (ttl : Span) (now : Int) : Option Lease × Store :=
  let lease : Lease := ⟨name, owner, expiry now ttl⟩
  let taken : Store := { s with leases := s.leases.filter (·.name ≠ name) ++ [lease] }
  match s.leaseOf name with
  | some held => if held.expiresAt ≤ now then (some lease, taken) else (none, s)
  | none => (some lease, taken)

def release (s : Store) (lease : Lease) : Store :=
  { s with leases := s.leases.filter fun l => !(l.name = lease.name && l.owner = lease.owner) }

/-- The lease that holds a lock at the given time. -/
def holder (s : Store) (name : String) (now : Int) : Option Lease :=
  match s.leaseOf name with
  | some l => if now < l.expiresAt then some l else none
  | none => none

theorem holder_eq_some {s : Store} {name : String} {now : Int} {l : Lease} :
    s.holder name now = some l ↔ s.leaseOf name = some l ∧ now < l.expiresAt := by
  unfold holder
  cases s.leaseOf name with
  | none => simp
  | some held =>
    simp only [Option.ite_none_right_eq_some, Option.some.injEq]
    constructor
    · rintro ⟨valid, rfl⟩
      exact ⟨rfl, valid⟩
    · rintro ⟨rfl, valid⟩
      exact ⟨valid, rfl⟩

/-- A lock is refused exactly while an unexpired lease holds it, and a refusal changes nothing. -/
theorem tryAcquire_eq_none_iff {s : Store} {name owner : String} {ttl : Span} {now : Int} :
    (s.tryAcquire name owner ttl now).1 = none ↔ (s.holder name now).isSome := by
  simp only [tryAcquire, holder]
  cases s.leaseOf name with
  | none => simp
  | some held =>
    by_cases h : held.expiresAt ≤ now
    · have : ¬ now < held.expiresAt := by omega
      simp [h, this]
    · have : now < held.expiresAt := by omega
      simp [h, this]

/-- Taking out leases of other names does not change which lease is found. -/
theorem find?_filter_leases {leases : List Lease} {keep : Lease → Bool} {name : String}
    (h : ∀ l, l.name = name → keep l = true) :
    (leases.filter keep).find? (·.name = name) = leases.find? (·.name = name) := by
  induction leases with
  | nil => rfl
  | cons l rest ih =>
    by_cases same : l.name = name
    · simp [List.filter_cons_of_pos (h l same), same]
    · by_cases kept : keep l = true
      · simpa [List.filter_cons_of_pos kept, same] using ih
      · simpa [List.filter_cons_of_neg kept, same] using ih

/-- A lock that is taken has one row, that of its new owner. -/
theorem tryAcquire_eq_some {s t : Store} {name owner : String} {ttl : Span} {now : Int} {l : Lease}
    (h : s.tryAcquire name owner ttl now = (some l, t)) :
    l.name = name ∧ l.owner = owner ∧
      t = { s with leases := s.leases.filter (·.name ≠ name) ++ [l] } := by
  simp only [tryAcquire] at h
  split at h
  · split at h
    · simp only [Prod.mk.injEq, Option.some.injEq] at h
      obtain ⟨rfl, rfl⟩ := h
      exact ⟨rfl, rfl, rfl⟩
    · simp at h
  · simp only [Prod.mk.injEq, Option.some.injEq] at h
    obtain ⟨rfl, rfl⟩ := h
    exact ⟨rfl, rfl, rfl⟩

theorem tryAcquire_eq_none {s t : Store} {name owner : String} {ttl : Span} {now : Int}
    (h : s.tryAcquire name owner ttl now = (none, t)) : t = s := by
  simp only [tryAcquire] at h
  split at h
  · split at h
    · simp at h
    · simp only [Prod.mk.injEq, true_and] at h
      exact h.symm
  · simp at h

/-- A lock that is taken is held under the new lease, and no other lock is touched. -/
theorem leaseOf_of_tryAcquire {s t : Store} {name owner : String} {ttl : Span} {now : Int}
    {l : Lease} (h : s.tryAcquire name owner ttl now = (some l, t)) (other : String) :
    t.leaseOf other = if other = name then some l else s.leaseOf other := by
  obtain ⟨named, _, rfl⟩ := tryAcquire_eq_some h
  simp only [leaseOf, List.find?_append]
  split
  · next same =>
    subst same
    have absent : (s.leases.filter (·.name ≠ other)).find? (·.name = other) = none := by
      rw [List.find?_eq_none]
      intro x hx
      simpa using (List.mem_filter.1 hx).2
    rw [absent]
    simp [named]
  · next different =>
    rw [find?_filter_leases (by simp_all)]
    have : ¬ name = other := fun e => different e.symm
    simp [named, this]

/-- Giving back a lease changes no lock of another name. -/
theorem leaseOf_release_of_ne {s : Store} {l : Lease} {other : String} (h : other ≠ l.name) :
    (s.release l).leaseOf other = s.leaseOf other := by
  refine find?_filter_leases ?_
  rintro x rfl
  simp [h]

/-- The lease that is found is still found while it is not taken out itself. -/
theorem find?_filter_of_kept {leases : List Lease} {keep : Lease → Bool} {name : String} {l : Lease}
    (found : leases.find? (·.name = name) = some l) (kept : keep l = true) :
    (leases.filter keep).find? (·.name = name) = some l := by
  induction leases with
  | nil => cases found
  | cons x rest ih =>
    by_cases named : x.name = name
    · rw [List.find?_cons_of_pos (by simpa using named)] at found
      obtain rfl : x = l := Option.some.inj found
      rw [List.filter_cons_of_pos kept, List.find?_cons_of_pos (by simpa using named)]
    · rw [List.find?_cons_of_neg (by simpa using named)] at found
      rw [List.filter_cons]
      split
      · rw [List.find?_cons_of_neg (by simpa using named)]
        exact ih found
      · exact ih found

/-- Giving back a lease changes no lock that is held under another one. -/
theorem leaseOf_release_of_held {s : Store} {k l : Lease} {name : String}
    (held : s.leaseOf name = some l) (other : ¬ (l.name = k.name ∧ l.owner = k.owner)) :
    (s.release k).leaseOf name = some l := by
  refine find?_filter_of_kept held ?_
  simpa only [Bool.not_eq_true', Bool.and_eq_false_imp, decide_eq_true_eq,
    decide_eq_false_iff_not, not_and] using other

/-- Nothing is left of a lease that was given back. -/
theorem not_mem_release {s : Store} {l : Lease} :
    ∀ x ∈ (s.release l).leases, ¬ (x.name = l.name ∧ x.owner = l.owner) := by
  intro x hx
  have kept := (List.mem_filter.mp hx).2
  simpa only [Bool.not_eq_true', Bool.and_eq_false_imp, decide_eq_true_eq,
    decide_eq_false_iff_not, not_and] using kept

end RegistryFeed.Store
