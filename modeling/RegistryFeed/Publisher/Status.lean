/-! # The status of a publisher

What a publisher remembers between two ticks, and what others can see of it. Failures are counted in
a machine word: the count that is kept goes round at its end, the count that is told stays there. -/
namespace RegistryFeed

/-- Failures count from the last success; the version is the latest one published since the start,
or zero. -/
structure PublisherStatus where
  halted : Bool
  failures : UInt32
  lastPublished : Int
deriving DecidableEq, Repr

namespace PublisherStatus

def fresh : PublisherStatus := ⟨false, 0, 0⟩

def maxFailures : UInt32 := 4294967295

def halt (s : PublisherStatus) : PublisherStatus := { s with halted := true }

def resume (s : PublisherStatus) : PublisherStatus := { s with halted := false }

/-- A run succeeded, with a version or with nothing to publish. -/
def recordSuccess (s : PublisherStatus) (version : Option Int) : PublisherStatus :=
  { s with failures := 0, lastPublished := version.getD s.lastPublished }

/-- The latest version published since the start, as it is told: none is told by zero. -/
def lastPublished? (s : PublisherStatus) : Option Int :=
  if s.lastPublished = 0 then none else some s.lastPublished

/-- A run failed: the count that is told, and the status after it. -/
def recordFailure (s : PublisherStatus) : UInt32 × PublisherStatus :=
  (if s.failures = maxFailures then maxFailures else s.failures + 1,
    { s with failures := s.failures + 1 })

/-- What may happen to a status. -/
inductive Call
  | success (version : Option Int)
  | failure
  | halt
  | resume
deriving DecidableEq, Repr

def step (s : PublisherStatus) : Call → PublisherStatus
  | .success version => s.recordSuccess version
  | .failure => s.recordFailure.2
  | .halt => s.halt
  | .resume => s.resume

def run (s : PublisherStatus) (cs : List Call) : PublisherStatus := cs.foldl step s

end PublisherStatus

end RegistryFeed
