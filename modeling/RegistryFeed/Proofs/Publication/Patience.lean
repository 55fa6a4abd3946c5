import RegistryFeed.Publication.TimedWait

/-!
# How long a wait for a lock lasts

The lock may answer every try in any way, at any time. Only the delays are asked
to be known and longer than nothing, so that time goes on. Since a sleep ends no
later than the wait is to end, the tries fall on times that the delays alone
decide, and the last of them falls on the end of the wait.
-/

namespace RegistryFeed

namespace RetryPolicy

/-- Each delay after an attempt is known, and is longer than nothing. -/
def Advances (p : RetryPolicy) : Prop :=
  ∀ attempt, 1 ≤ attempt → ∃ d, p.delay attempt = .ok d ∧ 0 < d.nanos

/-- All delays after the first attempts together, in nanoseconds. -/
def reach (p : RetryPolicy) : Nat → Nat
  | 0 => 0
  | n + 1 => p.reach n + match p.delay (n + 1) with
    | .ok d => d.nanos
    | .error _ => 0

/-- The attempts are not used up before so much time is over. -/
def Outlasts (p : RetryPolicy) (timeout : Span) : Prop :=
  timeout.nanos ≤ p.reach (p.maxAttempts - 1)

theorem reach_succ {p : RetryPolicy} {n : Nat} {d : Span} (h : p.delay (n + 1) = .ok d) :
    p.reach (n + 1) = p.reach n + d.nanos := by
  rw [reach, h]

/-- Every delay takes a nanosecond or more. -/
theorem Advances.le_reach {p : RetryPolicy} (advances : p.Advances) (n : Nat) : n ≤ p.reach n := by
  induction n with
  | zero => exact Nat.zero_le _
  | succ n ih =>
    obtain ⟨d, known, long⟩ := advances (n + 1) (by omega)
    rw [reach_succ known]
    omega

/-- So more attempts than the time has nanoseconds are as good as any number of them. -/
theorem Advances.outlasts {p : RetryPolicy} (advances : p.Advances) {timeout : Span}
    (many : timeout.nanos < p.maxAttempts) : p.Outlasts timeout := by
  have := advances.le_reach (p.maxAttempts - 1)
  rw [Outlasts]
  omega

end RetryPolicy

namespace LockWait

/-- The time of a try that has so many tries before it. -/
def moment (w : LockWait) (n : Nat) : Span := ⟨min w.timeout.nanos (w.retry.reach n)⟩

/-- The try that has so many tries before it. -/
def attempt (w : LockWait) (lock : Nat → Span → Except EngineError (Option Lease)) (n : Nat) :
    LockTry :=
  ⟨w.moment n, lock n (w.moment n)⟩

/-- How a wait ends, by the answer to its last try. -/
inductive Concluded (w : LockWait) (tries : Nat) (time : Span) :
    Except EngineError (Option Lease) → Phase → Prop
  | lease {lease : Lease} : Concluded w tries time (.ok (some lease)) (.acquired lease)
  | contended (spent : w.timeout.nanos ≤ time.nanos ∨ tries = max 1 w.retry.maxAttempts) :
      Concluded w tries time (.ok none) (.failed (.lockContended w.name))
  | broken {error : EngineError} : Concluded w tries time (.error error) (.failed error)

/-- The first tries were refused, and there was time and an attempt left after each. -/
def Refused (w : LockWait) (lock : Nat → Span → Except EngineError (Option Lease)) (n : Nat) :
    Prop :=
  ∀ i < n, lock i (w.moment i) = .ok none ∧ (w.moment i).nanos < w.timeout.nanos ∧
    i + 1 < w.retry.maxAttempts

variable {w : LockWait} {lock : Nat → Span → Except EngineError (Option Lease)} {n : Nat}

theorem nanos_min (a b : Span) : (a.min b).nanos = min a.nanos b.nanos := by
  rw [Span.min]
  split
  · next le => exact (Nat.min_eq_left le).symm
  · next lt => exact (Nat.min_eq_right (Nat.le_of_not_le lt)).symm

theorem moment_zero (w : LockWait) : w.moment 0 = .zero :=
  congrArg Span.mk (Nat.min_zero w.timeout.nanos)

theorem moment_le (w : LockWait) (n : Nat) : (w.moment n).nanos ≤ w.timeout.nanos :=
  Nat.min_le_left _ _

theorem Refused.succ (refused : w.Refused lock n) (last : lock n (w.moment n) = .ok none)
    (time : (w.moment n).nanos < w.timeout.nanos) (left : n + 1 < w.retry.maxAttempts) :
    w.Refused lock (n + 1) := by
  intro i hi
  rcases Nat.lt_succ_iff_lt_or_eq.mp hi with earlier | rfl
  · exact refused i earlier
  · exact ⟨last, time, left⟩

/-- Each try that was refused took its time. -/
theorem Refused.le_timeout (refused : w.Refused lock n) (advances : w.retry.Advances) :
    n ≤ w.timeout.nanos := by
  cases n with
  | zero => exact Nat.zero_le _
  | succ n =>
    have time : min w.timeout.nanos (w.retry.reach n) < w.timeout.nanos :=
      (refused n (Nat.lt_succ_self n)).2.1
    have := advances.le_reach n
    omega

theorem Refused.tries_le (refused : w.Refused lock n) : n + 1 ≤ max 1 w.retry.maxAttempts := by
  cases n with
  | zero => omega
  | succ n =>
    have := (refused n (Nat.lt_succ_self n)).2.2
    omega

/-- After a refusal the wait is given up, or the sleep lasts until the next try is due. -/
theorem delay?_cases (advances : w.retry.Advances) (n : Nat) :
    (w.timeout.nanos ≤ (w.moment n).nanos ∨ w.retry.maxAttempts ≤ n + 1) ∧
      w.delay? (n + 1) (w.moment n) = .ok none ∨
    ((w.moment n).nanos < w.timeout.nanos ∧ n + 1 < w.retry.maxAttempts) ∧
      ∃ d, (w.moment n).add d = w.moment (n + 1) ∧
        w.delay? (n + 1) (w.moment n) = .ok (some d) := by
  by_cases spent : w.timeout.nanos ≤ (w.moment n).nanos ∨ w.retry.maxAttempts ≤ n + 1
  · refine .inl ⟨spent, ?_⟩
    rw [delay?, if_pos (by simpa using spent)]
  · obtain ⟨d, known, long⟩ := advances (n + 1) (by omega)
    refine .inr ⟨by omega, d.min (w.timeout.sub (w.moment n)), ?_, ?_⟩
    · have time : (w.moment n).nanos = min w.timeout.nanos (w.retry.reach n) := rfl
      have rest : (w.timeout.sub (w.moment n)).nanos = w.timeout.nanos - (w.moment n).nanos := rfl
      refine congrArg Span.mk ?_
      rw [nanos_min, rest, RetryPolicy.reach_succ known]
      omega
    · rw [delay?, if_neg (by simpa using spent), known]
      rfl

end LockWait

namespace TimedWait

variable {w : LockWait} {lock : Nat → Span → Except EngineError (Option Lease)}

/-- Where a wait is after so many steps: tries and sleeps take turns until the last try. -/
inductive Stage (lock : Nat → Span → Except EngineError (Option Lease)) (w : LockWait) :
    Nat → TimedWait → Prop
  | trying {n : Nat} (refused : w.Refused lock n) :
      Stage lock w (2 * n) ⟨{ w with attempts := n, phase := .trying }, w.moment n,
        (List.range n).map (w.attempt lock)⟩
  | sleeping {n : Nat} {d : Span} (refused : w.Refused lock (n + 1))
      (wakes : (w.moment n).add d = w.moment (n + 1)) :
      Stage lock w (2 * n + 1) ⟨{ w with attempts := n + 1, phase := .sleeping d }, w.moment n,
        (List.range (n + 1)).map (w.attempt lock)⟩
  | ended {steps n : Nat} {t : TimedWait} (refused : w.Refused lock n)
      (tries : t.tries = (List.range (n + 1)).map (w.attempt lock)) (slept : t.slept = w.moment n)
      (concluded : w.Concluded (n + 1) (w.moment n) (lock n (w.moment n)) t.wait.phase) :
      Stage lock w steps t

theorem step_of_concluded {t : TimedWait} {tries : Nat} {time : Span}
    {answer : Except EngineError (Option Lease)}
    (concluded : w.Concluded tries time answer t.wait.phase) : t.step lock = t := by
  generalize phase : t.wait.phase = ended at concluded
  cases concluded with
  | lease | contended | broken => simp only [step, phase]

theorem Stage.step (advances : w.retry.Advances) {steps : Nat} {t : TimedWait}
    (stage : Stage lock w steps t) : Stage lock w (steps + 1) (t.step lock) := by
  cases stage with
  | @trying n refused =>
    have tries : (List.range n).map (w.attempt lock) ++ [w.attempt lock n] =
        (List.range (n + 1)).map (w.attempt lock) := by
      rw [List.range_succ, List.map_append, List.map_singleton]
    have count : ((List.range n).map (w.attempt lock)).length = n := by simp
    simp only [TimedWait.step, count]
    cases answer : lock n (w.moment n) with
    | error error =>
      refine .ended refused ?_ rfl ?_
      · rw [← tries, LockWait.attempt, answer]
      · rw [answer]
        exact .broken
    | ok held =>
      cases held with
      | some lease =>
        refine .ended refused ?_ rfl ?_
        · rw [← tries, LockWait.attempt, answer]
        · rw [answer]
          exact .lease
      | none =>
        rcases w.delay?_cases advances n with ⟨spent, given⟩ | ⟨⟨time, left⟩, d, wakes, sleeps⟩
        · have given : ({ w with attempts := n, phase := .trying } : LockWait).delay? (n + 1)
            (w.moment n) = .ok none := given
          refine .ended refused ?_ rfl ?_
          · rw [← tries, LockWait.attempt, answer]
          · simp only [answer, LockWait.tried, given]
            exact .contended (spent.imp_right fun used => Nat.le_antisymm refused.tries_le
              (Nat.max_le.mpr ⟨Nat.le_add_left 1 n, used⟩))
        · have sleeps : ({ w with attempts := n, phase := .trying } : LockWait).delay? (n + 1)
            (w.moment n) = .ok (some d) := sleeps
          have asleep := Stage.sleeping (refused.succ answer time left) wakes
          rw [← tries, LockWait.attempt, answer] at asleep
          simp only [LockWait.tried, sleeps]
          exact asleep
  | @sleeping n d refused wakes =>
    have woken : Stage lock w (2 * (n + 1)) _ := .trying refused
    rw [← wakes] at woken
    exact woken
  | ended refused tries slept concluded =>
    rw [step_of_concluded concluded]
    exact .ended refused tries slept concluded

theorem Stage.run (advances : w.retry.Advances) {t : TimedWait} (begun : Stage lock w 0 t)
    (steps : Nat) : Stage lock w steps (t.run lock steps) := by
  induction steps with
  | zero => exact begun
  | succ steps ih => exact ih.step advances

theorem Stage.create (lock : Nat → Span → Except EngineError (Option Lease)) (name : String)
    (ttl timeout : Span) (retry : RetryPolicy) :
    Stage lock (.create name ttl timeout retry) 0 (create name ttl timeout retry) := by
  have begun : Stage lock (.create name ttl timeout retry) (2 * 0) _ :=
    .trying (by simp [LockWait.Refused])
  rw [LockWait.moment_zero] at begun
  exact begun

/-- Two steps for each nanosecond of the time are enough. -/
theorem Stage.of_enough (advances : w.retry.Advances) {steps : Nat} {t : TimedWait}
    (stage : Stage lock w steps t) (enough : 2 * w.timeout.nanos + 1 ≤ steps) :
    ∃ n, w.Refused lock n ∧ t.tries = (List.range (n + 1)).map (w.attempt lock) ∧
      t.slept = w.moment n ∧
      w.Concluded (n + 1) (w.moment n) (lock n (w.moment n)) t.wait.phase := by
  cases stage with
  | trying refused =>
    have := refused.le_timeout advances
    omega
  | sleeping refused =>
    have := refused.le_timeout advances
    omega
  | ended refused tries slept concluded => exact ⟨_, refused, tries, slept, concluded⟩

/-- A wait ends, whatever the lock answers, and it has slept no longer than it was to wait. Each try
but the last was refused; the last one was granted, or could not be made, or was refused and there
was no time or no attempt left. A lock that can be had from some time on is had, if the attempts
are not used up before the time is over. -/
theorem wait_ends (lock : Nat → Span → Except EngineError (Option Lease)) (name : String)
    (ttl timeout : Span) {retry : RetryPolicy} (advances : retry.Advances) {steps : Nat}
    (enough : 2 * timeout.nanos + 1 ≤ steps) :
    let w := LockWait.create name ttl timeout retry
    let t := (create name ttl timeout retry).run lock steps
    ∃ n, t.tries = (List.range (n + 1)).map (w.attempt lock) ∧
      (∀ i < n, lock i (w.moment i) = .ok none ∧ (w.moment i).nanos < timeout.nanos) ∧
      t.tries.length ≤ max 1 retry.maxAttempts ∧
      t.slept = w.moment n ∧ t.slept.nanos ≤ timeout.nanos ∧
      w.Concluded t.tries.length t.slept (lock n t.slept) t.wait.phase ∧
      ∀ start : Span, start.nanos ≤ timeout.nanos →
        (∀ i time, start.nanos ≤ time.nanos → ∃ lease, lock i time = .ok (some lease)) →
        (∀ i time error, time.nanos < start.nanos → lock i time ≠ .error error) →
        retry.Outlasts timeout → ∃ lease, t.wait.phase = .acquired lease := by
  intro w t
  have known : w.retry.Advances := advances
  have stage : Stage lock w steps t := (Stage.create lock name ttl timeout retry).run known steps
  obtain ⟨n, refused, tries, slept, concluded⟩ := stage.of_enough known enough
  have count : t.tries.length = n + 1 := by
    rw [tries, List.length_map, List.length_range]
  rw [count, slept]
  refine ⟨n, tries, fun i hi => ⟨(refused i hi).1, (refused i hi).2.1⟩, refused.tries_le, rfl,
    w.moment_le n, concluded, ?_⟩
  intro start within obtainable sound outlasts
  generalize t.wait.phase = phase at concluded ⊢
  by_cases reached : start.nanos ≤ (w.moment n).nanos
  · obtain ⟨lease, held⟩ := obtainable n _ reached
    rw [held] at concluded
    cases concluded
    exact ⟨lease, rfl⟩
  · cases answer : lock n (w.moment n) with
    | error error => exact absurd answer (sound n _ error (by omega))
    | ok held =>
      rw [answer] at concluded
      cases concluded with
      | lease => exact ⟨_, rfl⟩
      | contended spent =>
        exfalso
        have spent : timeout.nanos ≤ (w.moment n).nanos ∨ n + 1 = max 1 retry.maxAttempts := spent
        have time : (w.moment n).nanos = min timeout.nanos (retry.reach n) := rfl
        rcases spent with late | used
        · omega
        · have last : retry.maxAttempts - 1 = n := by omega
          have outlasts : timeout.nanos ≤ retry.reach (retry.maxAttempts - 1) := outlasts
          rw [last] at outlasts
          omega

/-- As many tries as there can be, with the same delay between any two. -/
def steady : RetryPolicy := ⟨Text.maxNat64, .ofMillis 25, .ofSeconds 1, .ofNat 1⟩

theorem powerLoop_one (n : Nat) : Binary64.powerLoop (.ofNat 1) (.ofNat 1) n = .ofNat 1 := by
  have square : Binary64.mul (.ofNat 1) (.ofNat 1) = .ofNat 1 := by decide +kernel
  induction n using Nat.strongRecOn with
  | ind n ih =>
    rw [Binary64.powerLoop, square, ite_self]
    split
    · rfl
    · exact ih _ (by omega)

/-- A factor of one leaves the delay as it is. -/
theorem delay_of_one {p : RetryPolicy} (one : p.factor = .ofNat 1) {attempt : Nat}
    (counted : attempt ≠ 0) : p.delay attempt = p.delay 1 := by
  have growth (n : Nat) : p.factor.power n = .ofNat 1 := by
    rw [one]
    exact powerLoop_one n
  simp only [RetryPolicy.delay, if_neg counted, growth, if_neg Nat.one_ne_zero]

theorem steady_advances : steady.Advances := by
  intro attempt counted
  have first : (steady.delay 1).toOption = some (.ofMillis 25) := by decide +kernel
  have factor : steady.factor = .ofNat 1 := by simp only [steady]
  rw [delay_of_one factor (by omega)]
  cases known : steady.delay 1 with
  | error cause =>
    rw [known] at first
    cases first
  | ok d =>
    rw [known] at first
    obtain rfl := Option.some.inj first
    exact ⟨_, rfl, by decide⟩

/-- Held by another for thirty milliseconds, and free from then on. -/
def freed (_ : Nat) (time : Span) : Except EngineError (Option Lease) :=
  if time.nanos < 30000000 then .ok none else .ok (some ⟨"source:TEST", "owner-1", 0⟩)

/-- The lock is free after the second try, so that the last one, at the end of the wait, has it. -/
theorem wait_ends_in_time :
    steady.Advances ∧ steady.Outlasts (.ofMillis 40) ∧
    ∃ lease, ((create "source:TEST" (.ofSeconds 1) (.ofMillis 40) steady).run freed
      (2 * (Span.ofMillis 40).nanos + 1)).wait.phase = .acquired lease := by
  have outlasts : steady.Outlasts (.ofMillis 40) := steady_advances.outlasts (by decide)
  refine ⟨steady_advances, outlasts, ?_⟩
  obtain ⟨n, -, -, -, -, -, -, had⟩ := wait_ends freed "source:TEST" (.ofSeconds 1) (.ofMillis 40)
    steady_advances (Nat.le_refl _)
  refine had (.ofMillis 30) (by decide) ?_ ?_ outlasts
  · intro i time free
    have free : 30000000 ≤ time.nanos := free
    exact ⟨_, if_neg (by omega)⟩
  · intro i time error _
    rw [freed]
    split
    · simp
    · simp

end TimedWait

end RegistryFeed
