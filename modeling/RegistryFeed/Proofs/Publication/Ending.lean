import RegistryFeed.Publication.Site

/-!
# A generator that is alone comes to an end

On a site with the locks of its store, a generator that runs alone ends within the
steps that it is given, whoever holds its lock and whatever it finds. A sleep takes
a millisecond or more, so the wait is over in time; behind the lock there is one
step for each thing to do.
-/

namespace RegistryFeed

open Generation

/-- A generator that is to end within so many steps, at a time. A try before the end of the wait
costs two steps for each millisecond that is left, since a sleep follows it. -/
inductive Generation.EndsWithin (startedAt timeout now : Span) : Nat → Phase → Prop
  | ended {n : Nat} {result : GenerationResult} : EndsWithin startedAt timeout now n (.ended result)
  | fatal {n : Nat} {cause : Fatal} : EndsWithin startedAt timeout now n (.fatal cause)
  | releasing {n : Nat} {lease : Lease} {result : GenerationResult} :
      EndsWithin startedAt timeout now (n + 1) (.releasing lease result)
  | committing {n : Nat} {lease : Lease} {p : Publishing} :
      EndsWithin startedAt timeout now (n + 2) (.committing lease p)
  | reading {n : Nat} {lease : Lease} {previous : Option VersionInfo} :
      EndsWithin startedAt timeout now (n + 3) (.reading lease previous)
  | finding {n : Nat} {lease : Lease} : EndsWithin startedAt timeout now (n + 4) (.finding lease)
  | trying {n millis : Nat} {w : LockWait} (phase : w.phase = .trying) (wait : w.timeout = timeout)
      (left : startedAt.nanos + timeout.nanos ≤ now.nanos + 1000000 * millis) :
      EndsWithin startedAt timeout now (n + 2 * millis + 5) (.locking w)
  | sleeping {n millis : Nat} {w : LockWait} {d : Span} (phase : w.phase = .sleeping d)
      (wait : w.timeout = timeout)
      (left : startedAt.nanos + timeout.nanos ≤ now.nanos + 1000000 * (millis + 1)) :
      EndsWithin startedAt timeout now (n + 2 * millis + 6) (.locking w)

namespace Generation

variable {startedAt timeout now : Span} {g : Generation} {n : Nat}

theorem waited_phase (g : Generation) (w : LockWait) :
    (g.waited w).phase = match w.phase with
      | .acquired lease => .finding lease
      | .failed error => .ended (.error error)
      | .fatal cause => .fatal cause
      | .trying | .sleeping _ => .locking { w with observed := [] } := by
  unfold waited
  simp only
  cases w.phase with
  | _ => rfl

/-- A wait sleeps only while there is time left. -/
theorem time_of_delay? {w : LockWait} {attempts : Nat} {elapsed d : Span}
    (h : w.delay? attempts elapsed = .ok (some d)) : elapsed.nanos < w.timeout.nanos := by
  rw [LockWait.delay?] at h
  split at h
  · cases h
  · next going =>
    rw [Bool.or_eq_true, not_or, decide_eq_true_eq, Nat.not_le] at going
    exact going.1

theorem EndsWithin.tried {w : LockWait} {millis : Nat} (locking : g.phase = .locking w)
    (trying : w.phase = .trying) (wait : w.timeout = timeout)
    (begun : startedAt.nanos ≤ now.nanos)
    (left : startedAt.nanos + timeout.nanos ≤ now.nanos + 1000000 * millis)
    (result : Except EngineError (Option Lease)) :
    EndsWithin startedAt timeout now (n + 2 * millis + 4)
      (g.lockTried (now.sub startedAt) result).phase := by
  simp only [lockTried, locking, waited_phase, LockWait.tried, trying]
  cases result with
  | error error => exact .ended
  | ok held =>
    cases held with
    | some lease => exact .finding
    | none =>
      simp only
      cases delay : w.delay? (w.attempts + 1) (now.sub startedAt) with
      | error cause => exact .fatal
      | ok given =>
        cases given with
        | none => exact .ended
        | some d =>
          have time := time_of_delay? delay
          have elapsed : (now.sub startedAt).nanos = now.nanos - startedAt.nanos := rfl
          obtain ⟨k, rfl⟩ : ∃ k, millis = k + 1 := ⟨millis - 1, by rw [wait] at time; omega⟩
          exact .sleeping rfl wait left

theorem EndsWithin.found {lease : Lease} (finding : g.phase = .finding lease)
    (result : Except EngineError (Option VersionInfo)) :
    EndsWithin startedAt timeout now (n + 3) (g.found result).phase := by
  simp only [Generation.found, finding]
  split
  · exact .releasing
  · exact .releasing
  · exact .reading
  · exact .reading
  · exact .releasing

theorem EndsWithin.read {lease : Lease} {previous : Option VersionInfo}
    (reading : g.phase = .reading lease previous) (result : Except EngineError (List Entry)) :
    EndsWithin startedAt timeout now (n + 2) (g.read result).phase := by
  simp only [Generation.read, reading]
  split
  · exact .releasing
  · exact .committing
  · split
    · exact .releasing
    · split
      · exact .releasing
      · exact .committing

end Generation

namespace Site

variable {site : Site} {startedAt timeout : Span} {g : Generation} {n : Nat}

theorem tryLock_plain (plain : site.script = none) (name : String) (ttl : Span) :
    (site.tryLock name ttl).2.script = none ∧ (site.tryLock name ttl).2.clock = site.clock := by
  simp only [tryLock, plain, and_self]

theorem sleep_plain (plain : site.script = none) (delay : Span) :
    (site.sleep delay).script = none ∧
      site.clock.nanos + 1000000 ≤ (site.sleep delay).clock.nanos := by
  -- the site is taken apart first, or checking would compare the clocks before and after
  obtain ⟨store, memory, script, clock, stamp, owners⟩ := site
  obtain rfl : script = none := plain
  refine ⟨rfl, ?_⟩
  show clock.nanos + 1000000 ≤ clock.nanos + max 1 delay.timer.ceilMillis * 1000000
  exact Nat.add_le_add_left (Nat.le_mul_of_pos_left _ (Nat.le_max_left _ _)) _

/-- The clock does not go back, and the locks stay those of the store. -/
theorem step_plain (plain : site.script = none) (startedAt : Span) (g : Generation) :
    (site.step startedAt g).2.script = none ∧
      site.clock.nanos ≤ (site.step startedAt g).2.clock.nanos := by
  have stays : site.script = none ∧ site.clock.nanos ≤ site.clock.nanos :=
    ⟨plain, Nat.le_refl _⟩
  unfold step
  split
  · next w _ =>
    split
    · obtain ⟨still, same⟩ := site.tryLock_plain plain w.name w.ttl
      exact ⟨still, Nat.le_of_eq (congrArg Span.nanos same.symm)⟩
    · next delay _ =>
      obtain ⟨still, later⟩ := site.sleep_plain plain delay
      exact ⟨still, Nat.le_of_add_right_le later⟩
    · exact stays
  · exact stays
  · simp only [entriesSince]
    split
    · exact stays
    · exact stays
  · split
    · exact stays
    · exact stays
  · simp only [releaseLock, plain]
    exact ⟨trivial, Nat.le_refl _⟩
  · exact stays
  · exact stays

theorem step_endsWithin (plain : site.script = none) (begun : startedAt.nanos ≤ site.clock.nanos)
    (h : EndsWithin startedAt timeout site.clock (n + 1) g.phase) :
    EndsWithin startedAt timeout (site.step startedAt g).2.clock n
      (site.step startedAt g).1.phase := by
  generalize steps : n + 1 = m at h
  generalize phase : g.phase = now at h
  cases h with
  | ended =>
    simp only [step, phase]
    exact .ended
  | fatal =>
    simp only [step, phase]
    exact .fatal
  | releasing =>
    simp only [step, phase, released]
    exact .ended
  | committing =>
    obtain rfl : n = _ + 1 := Nat.succ.inj steps
    simp only [step, phase]
    split
    · simp only [committed, phase]
      exact .releasing
    · simp only [committed, phase]
      exact .releasing
  | reading =>
    obtain rfl : n = _ + 2 := Nat.succ.inj steps
    simp only [step, phase]
    exact .read phase _
  | finding =>
    obtain rfl : n = _ + 3 := Nat.succ.inj steps
    simp only [step, phase]
    exact .found phase _
  | trying trying wait left =>
    obtain rfl : n = _ + 4 := Nat.succ.inj steps
    simp only [step, phase, trying]
    rw [(tryLock_plain plain _ _).2]
    exact .tried phase trying wait begun left _
  | @sleeping _ millis w d asleep wait left =>
    obtain rfl : n = _ + 5 := Nat.succ.inj steps
    have slept := (sleep_plain plain d).2
    simp only [step, phase, asleep, woken, LockWait.woken, waited_phase]
    exact .trying rfl wait (by omega)

/-- A generator that runs alone for as many steps as it may need has ended, or has met a delay that
cannot be had. -/
theorem run_endsWithin (plain : site.script = none) (begun : startedAt.nanos ≤ site.clock.nanos)
    (h : EndsWithin startedAt timeout site.clock n g.phase) :
    (∃ result, (run startedAt n g site).1.phase = .ended result) ∨
      ∃ cause, (run startedAt n g site).1.phase = .fatal cause := by
  induction n generalizing site g with
  | zero =>
    rw [run]
    generalize g.phase = now at h ⊢
    generalize steps : 0 = m at h
    cases h with
    | ended => exact .inl ⟨_, rfl⟩
    | fatal => exact .inr ⟨_, rfl⟩
    | releasing | committing | reading | finding | trying | sleeping => omega
  | succ n ih =>
    rw [run]
    split
    · next result phase => exact .inl ⟨result, phase⟩
    · next cause phase => exact .inr ⟨cause, phase⟩
    · obtain ⟨still, later⟩ := step_plain plain startedAt g
      exact ih still (Nat.le_trans begun later) (step_endsWithin plain begun h)

/-- The steps that a generator is given are enough for it, so nothing of its work is cut off. -/
theorem generate_ends (plain : site.script = none) (kind : DocumentKind) (source : Source)
    (filter : PublicationFilter) (settings : GenerationSettings) (session : String) :
    (∃ result, (site.generate kind source filter settings session).1.phase = .ended result) ∨
      ∃ cause, (site.generate kind source filter settings session).1.phase = .fatal cause := by
  have enough : settings.wait.nanos ≤ 1000000 * settings.wait.ceilMillis := by
    rw [Span.ceilMillis]
    omega
  have steps : stepsFor settings = 11 + 2 * settings.wait.ceilMillis + 5 := by
    rw [stepsFor]
    omega
  have first : EndsWithin site.clock settings.wait site.clock (stepsFor settings)
      (create kind source filter settings session).phase := by
    rw [steps]
    exact .trying rfl rfl (Nat.add_le_add_left enough _)
  rw [generate]
  exact run_endsWithin plain (Nat.le_refl _) first

end Site

end RegistryFeed
