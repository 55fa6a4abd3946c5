import Mathlib.Data.List.DropRight
import RegistryFeed.Publisher.Status

/-!
# Counting failures

The count that a publisher keeps is the number of failures since the last success,
in a machine word that goes round. The count that is told after a failure stops at
the end of the word instead, so the two part at the first failure for which the
word has no room, and at no earlier one. Calls may come in any order and in any
number; halting and going on are not counted.
-/

namespace RegistryFeed

namespace PublisherStatus

/-- The failures since the last success, or since the start. -/
def failuresSince (cs : List Call) : Nat :=
  (cs.rtakeWhile fun c => !c matches .success _).count .failure

/-- After a failure that follows the calls, the count that is told and the count that is kept are
one, and it is the number of failures since the last success, held at the greatest count. -/
structure CountsAgree (cs : List Call) : Prop where
  same : (fresh.run cs).recordFailure.1 = (fresh.run (cs ++ [.failure])).failures
  held : (fresh.run cs).recordFailure.1.toNat =
    min (failuresSince (cs ++ [.failure])) maxFailures.toNat

/-! ## One more call -/

variable {cs : List Call}

theorem failuresSince_success (version : Option Int) :
    failuresSince (cs ++ [.success version]) = 0 := by
  simp [failuresSince]

theorem failuresSince_failure : failuresSince (cs ++ [.failure]) = failuresSince cs + 1 := by
  simp [failuresSince]

theorem failuresSince_halt : failuresSince (cs ++ [.halt]) = failuresSince cs := by
  simp [failuresSince]

theorem failuresSince_resume : failuresSince (cs ++ [.resume]) = failuresSince cs := by
  simp [failuresSince]

theorem run_concat (s : PublisherStatus) (cs : List Call) (c : Call) :
    s.run (cs ++ [c]) = (s.run cs).step c := by
  simp [run]

theorem toNat_maxFailures : maxFailures.toNat = 4294967295 := rfl

/-- The word goes round. -/
theorem toNat_kept (s : PublisherStatus) :
    (s.step .failure).failures.toNat = (s.failures.toNat + 1) % 4294967296 := by
  simp [step, recordFailure, UInt32.toNat_add]

/-- What is told stays at the end of the word. -/
theorem toNat_told (s : PublisherStatus) :
    s.recordFailure.1.toNat = min (s.failures.toNat + 1) maxFailures.toNat := by
  have small := s.failures.toNat_lt
  simp only [recordFailure, apply_ite UInt32.toNat]
  split
  · next full =>
    rw [full, toNat_maxFailures]
    omega
  · next room =>
    have below : s.failures.toNat ≠ maxFailures.toNat := fun h => room (UInt32.toNat_inj.mp h)
    rw [toNat_maxFailures] at below ⊢
    simp only [UInt32.toNat_add, UInt32.toNat_one]
    omega

/-! ## Whole runs -/

/-- The count that is kept, by induction on the calls in their order. -/
theorem toNat_failures (cs : List Call) :
    (fresh.run cs).failures.toNat = failuresSince cs % 4294967296 := by
  induction cs using List.reverseRecOn with
  | nil => rfl
  | append_singleton cs c ih =>
    rw [run_concat]
    cases c with
    | success version => rw [failuresSince_success]; rfl
    | failure =>
      rw [failuresSince_failure, toNat_kept, ih]
      omega
    | halt => rw [failuresSince_halt]; exact ih
    | resume => rw [failuresSince_resume]; exact ih

/-- On its way up a count takes every value. -/
theorem exists_failure {n : Nat} (h : n < failuresSince cs) :
    ∃ done more, cs = done ++ .failure :: more ∧ failuresSince done = n := by
  induction cs using List.reverseRecOn with
  | nil => cases h
  | append_singleton cs c ih =>
    by_cases earlier : n < failuresSince cs
    · obtain ⟨done, more, rfl, here⟩ := ih earlier
      exact ⟨done, more ++ [c], by simp, here⟩
    · cases c with
      | success version => rw [failuresSince_success] at h; cases h
      | failure =>
        rw [failuresSince_failure] at h
        exact ⟨cs, [], rfl, by omega⟩
      | halt => rw [failuresSince_halt] at h; exact absurd h earlier
      | resume => rw [failuresSince_resume] at h; exact absurd h earlier

theorem countsAgree_of_room (room : failuresSince cs < maxFailures.toNat) : CountsAgree cs := by
  have kept := toNat_kept (fresh.run cs)
  have told := toNat_told (fresh.run cs)
  rw [toNat_failures] at kept told
  rw [toNat_maxFailures] at room told
  constructor
  · rw [← UInt32.toNat_inj, run_concat]
    omega
  · rw [failuresSince_failure, toNat_maxFailures]
    omega

/-- Where the word is full, what is told is its end and what is kept is zero. -/
theorem counts_of_full (full : failuresSince cs = maxFailures.toNat) :
    (fresh.run cs).recordFailure.1 = maxFailures ∧
      (fresh.run (cs ++ [.failure])).failures = 0 := by
  have kept := toNat_kept (fresh.run cs)
  have told := toNat_told (fresh.run cs)
  rw [toNat_failures, full, toNat_maxFailures] at kept told
  constructor
  · rw [← UInt32.toNat_inj, toNat_maxFailures, told]
    rfl
  · rw [← UInt32.toNat_inj, run_concat, kept]
    rfl

/-- Where the word is full the two counts part. -/
theorem not_countsAgree_of_full (full : failuresSince cs = maxFailures.toNat) :
    ¬ CountsAgree cs := by
  rintro ⟨same, -⟩
  rw [(counts_of_full full).1, (counts_of_full full).2] at same
  cases same

/-- The count that is kept is the number of failures since the last success, in a word that goes
round, and the count that is told after one more failure goes up from there as far as the word goes.
After each failure of a run the two agree on the number of failures exactly if there are never more
of them in a row than a word can count. Halting and going on change no count. -/
theorem counts_of_run (cs : List Call) :
    (fresh.run cs).failures.toNat = failuresSince cs % 4294967296 ∧
    (fresh.run cs).recordFailure.1.toNat =
      min (failuresSince cs % 4294967296 + 1) maxFailures.toNat ∧
    ((∀ done more, cs = done ++ .failure :: more → CountsAgree done) ↔
      ∀ done more, cs = done ++ .failure :: more →
        failuresSince (done ++ [.failure]) ≤ maxFailures.toNat) ∧
    (fresh.run (cs ++ [.halt])).failures = (fresh.run cs).failures ∧
    (fresh.run (cs ++ [.resume])).failures = (fresh.run cs).failures := by
  have kept := toNat_failures cs
  refine ⟨kept, by rw [toNat_told, kept], ⟨?_, ?_⟩, by rw [run_concat]; rfl,
    by rw [run_concat]; rfl⟩
  · intro agree done more parts
    by_contra beyond
    -- this failure or an earlier one has filled the word
    obtain ⟨before, after, split, full⟩ := exists_failure (Nat.lt_of_not_le beyond)
    refine not_countsAgree_of_full full (agree before (after ++ more) ?_)
    calc cs = (done ++ [.failure]) ++ more := by rw [parts, List.append_assoc]; rfl
      _ = (before ++ .failure :: after) ++ more := by rw [split]
      _ = before ++ .failure :: (after ++ more) := List.append_assoc _ _ _
  · intro room done more parts
    have here := room done more parts
    rw [failuresSince_failure] at here
    exact countsAgree_of_room here

theorem failuresSince_replicate (n : Nat) :
    failuresSince (List.replicate n .failure) = n := by
  induction n with
  | zero => rfl
  | succ n ih => rw [List.replicate_succ', failuresSince_failure, ih]

/-- After 4294967296 failures in a row the count that is told is the greatest one, and the count
that is kept is zero. -/
theorem counts_part :
    let cs : List Call := List.replicate 4294967295 .failure
    failuresSince (cs ++ [.failure]) = 4294967296 ∧
      (fresh.run cs).recordFailure.1 = maxFailures ∧
      (fresh.run (cs ++ [.failure])).failures = 0 ∧ ¬ CountsAgree cs := by
  intro cs
  have full : failuresSince cs = maxFailures.toNat := failuresSince_replicate _
  obtain ⟨told, kept⟩ := counts_of_full full
  refine ⟨?_, told, kept, not_countsAgree_of_full full⟩
  rw [failuresSince_failure, full]
  rfl

end PublisherStatus

end RegistryFeed
