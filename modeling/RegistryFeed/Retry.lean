import RegistryFeed.Error
import RegistryFeed.Time.Span

/-! # Retries

After a failed attempt the next one waits. The delay grows by a factor from attempt to attempt and
is cut at a maximum; it is computed in seconds as floating-point numbers and rounded to a
nanosecond. -/
namespace RegistryFeed

structure RetryPolicy where
  maxAttempts : Nat
  initialDelay : Span
  maxDelay : Span
  factor : Binary64
deriving DecidableEq, Repr

namespace RetryPolicy

def default : RetryPolicy := ⟨10, .ofMillis 100, .ofSeconds 30, .ofNat 2⟩

/-- Used while a generation lock is held by another generator: as many attempts as its wait
allows. -/
def lockWait : RetryPolicy := ⟨Text.maxNat64, .ofMillis 25, .ofSeconds 1, .ofNat 2⟩

/-- Gives up soon. -/
def testing : RetryPolicy := ⟨3, .ofMillis 10, .ofMillis 100, .ofNat 2⟩

/-- The greatest exponent the factor is raised to. -/
def maxExponent : Nat := 2147483647

/-- The delay after the given attempt, counted from one. A negative number of seconds is none. -/
def delay (p : RetryPolicy) (attempt : Nat) : Except Fatal Span :=
  if attempt = 0 then .ok p.initialDelay
  else
    let growth := p.factor.power (min (attempt - 1) maxExponent)
    let seconds := p.initialDelay.toBinary64.mul growth
    if !seconds.isFinite || p.maxDelay.toBinary64.le seconds then .ok p.maxDelay
    else match seconds with
      | .finite negative significand shift =>
        if negative && significand ≠ 0 then .error .negativeDelay
        else .ok ((Span.ofUnits (Binary64.units significand shift)).min p.maxDelay)
      | _ => .ok p.maxDelay

end RetryPolicy

end RegistryFeed
