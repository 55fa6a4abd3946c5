import RegistryFeed.Number.Binary64

/-! # Spans of time

A span is a whole number of nanoseconds. Spans shown or configured have fewer than 2^64 seconds. -/
namespace RegistryFeed

structure Span where
  nanos : Nat
deriving DecidableEq, Repr

namespace Span

def zero : Span := ⟨0⟩

def nanosPerSecond : Nat := 1000000000

def ofSeconds (n : Nat) : Span := ⟨n * nanosPerSecond⟩

def ofMillis (n : Nat) : Span := ⟨n * 1000000⟩

/-- Whole seconds. -/
def seconds (s : Span) : Nat := s.nanos / nanosPerSecond

/-- Nanoseconds past the whole seconds. -/
def subsecond (s : Span) : Nat := s.nanos % nanosPerSecond

/-- Milliseconds, a part of one counting as a whole one. -/
def ceilMillis (s : Span) : Nat := (s.nanos + 999999) / 1000000

/-- Whole milliseconds. -/
def millis (s : Span) : Nat := s.nanos / 1000000

def add (a b : Span) : Span := ⟨a.nanos + b.nanos⟩

/-- What is left of a span; nothing if the other one is longer. -/
def sub (a b : Span) : Span := ⟨a.nanos - b.nanos⟩

def min (a b : Span) : Span := if a.nanos ≤ b.nanos then a else b

/-- Thirty years of 365 days: no timer runs longer. -/
def longestTimer : Span := ofSeconds 946080000

/-- How long a timer for a span runs. -/
def timer (s : Span) : Span := s.min longestTimer

/-- The time at which a timer for a span ends if it is set now. -/
def deadline (now s : Span) : Span := now.add s.timer

/-- The span in seconds: the seconds plus the quotient of the nanoseconds by 10^9, each rounded. -/
def toBinary64 (s : Span) : Binary64 :=
  Binary64.add (Binary64.ofNat s.seconds) (Binary64.quotient s.subsecond nanosPerSecond)

/-- The span nearest to a number of seconds, a tie to the even nanosecond. -/
def ofUnits (units : Nat) : Span :=
  ⟨Binary64.nearest (units * nanosPerSecond) Binary64.unitsPerOne⟩

end Span

end RegistryFeed
