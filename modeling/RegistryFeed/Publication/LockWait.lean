import RegistryFeed.Metrics
import RegistryFeed.Retry
import RegistryFeed.Store.Leases

/-! # Waiting for a lock

A waiter tries a lock, sleeps, and tries again, until the lock is its own, the time it allows
itself is over, or it has used up its attempts. A sleep is never longer than the time left, so that
a last attempt falls on the end of the wait. Nothing is assumed about the lock or the clock: every
try comes with its answer and the time since the first. -/
namespace RegistryFeed

inductive LockWait.Phase
  | trying
  | sleeping (delay : Span)
  | acquired (lease : Lease)
  | failed (error : EngineError)
  | fatal (cause : Fatal)
deriving DecidableEq, Repr

/-- A wait for a lock, after so many tries that failed. -/
structure LockWait where
  name : String
  ttl : Span
  timeout : Span
  retry : RetryPolicy
  attempts : Nat
  phase : LockWait.Phase
  observed : List Observation
deriving DecidableEq, Repr

namespace LockWait

def create (name : String) (ttl timeout : Span) (retry : RetryPolicy) : LockWait :=
  ⟨name, ttl, timeout, retry, 0, .trying, []⟩

/-- After a failed attempt: the delay before the next, or none to give up. -/
def delay? (w : LockWait) (attempts : Nat) (elapsed : Span) : Except Fatal (Option Span) :=
  if w.timeout.nanos ≤ elapsed.nanos || w.retry.maxAttempts ≤ attempts then .ok none
  else do
    let d ← w.retry.delay attempts
    return some (d.min (w.timeout.sub elapsed))

/-- A try is answered, so much time after the first. -/
def tried (w : LockWait) (elapsed : Span) (result : Except EngineError (Option Lease)) : LockWait :=
  match w.phase, result with
  | .trying, .error error => { w with phase := .failed error }
  | .trying, .ok (some lease) =>
    { w with phase := .acquired lease, observed := w.observed ++ [.lockWaited w.name true elapsed] }
  | .trying, .ok none =>
    let attempts := w.attempts + 1
    match w.delay? attempts elapsed with
    | .ok (some d) => { w with attempts := attempts, phase := .sleeping d }
    | .ok none =>
      { w with
        attempts := attempts
        phase := .failed (.lockContended w.name)
        observed := w.observed ++ [.lockWaited w.name false elapsed] }
    | .error cause => { w with attempts := attempts, phase := .fatal cause }
  | _, _ => w

/-- The sleep is over. -/
def woken (w : LockWait) : LockWait :=
  match w.phase with
  | .sleeping _ => { w with phase := .trying }
  | _ => w

end LockWait

end RegistryFeed
