import RegistryFeed.Publication.LockWait

/-! # Waiting by the clock

A wait for a lock on a clock that goes on by the time slept and by nothing else, so a try takes no
time. Other holders do as they please: the lock gives any answer to any try. -/
namespace RegistryFeed

/-- A try so much time after the first, and its answer. -/
structure LockTry where
  time : Span
  answer : Except EngineError (Option Lease)

structure TimedWait where
  wait : LockWait
  slept : Span
  tries : List LockTry

namespace TimedWait

/-- A wait that begins. -/
def create (name : String) (ttl timeout : Span) (retry : RetryPolicy) : TimedWait :=
  ⟨.create name ttl timeout retry, .zero, []⟩

/-- One try or one sleep. What the lock answers depends on the number of the try and the time. -/
def step (lock : Nat → Span → Except EngineError (Option Lease)) (t : TimedWait) : TimedWait :=
  match t.wait.phase with
  | .trying =>
    let answer := lock t.tries.length t.slept
    { t with wait := t.wait.tried t.slept answer, tries := t.tries ++ [⟨t.slept, answer⟩] }
  | .sleeping delay => { t with wait := t.wait.woken, slept := t.slept.add delay }
  | .acquired _ | .failed _ | .fatal _ => t

def run (lock : Nat → Span → Except EngineError (Option Lease)) (t : TimedWait) :
    Nat → TimedWait
  | 0 => t
  | n + 1 => (t.run lock n).step lock

end TimedWait

end RegistryFeed
