import RegistryFeed.Change.MemoryLog
import RegistryFeed.Session.Signal
import RegistryFeed.Session.Subscription

/-! # Calls of a subscription

A call for the next batch on a log that does not change while the call runs: it ends with a batch,
with the signal or with a failure, or it waits from one look to the next until it is given up. -/
namespace RegistryFeed

/-- A subscription with its log and its view of the signal. -/
structure Subscriber where
  subscription : Subscription
  log : MemoryLog
  signal : Signal
deriving Repr

namespace Subscriber

/-- One event of the call in progress, if it is not waiting for time to pass. -/
def advance? (s : Subscriber) : Option (Subscriber × Option Outcome) :=
  let on (s : Subscriber) (e : Subscription.Event) : Option (Subscriber × Option Outcome) :=
    let (sub, outcome) := s.subscription.step e
    some ({ s with subscription := sub }, outcome)
  match s.subscription.call with
  | .idle => none
  | .looking => on s (.look s.signal.value)
  | .reading =>
    let sub := s.subscription
    let (result, log) := s.log.page sub.source sub.cursor sub.batchSize
    on { s with log := log } (.page result)
  | .waiting =>
    if s.signal.fresh then on { s with signal := s.signal.noted } .wake
    else if s.signal.attached then none
    else on s .detached

/-- Runs the call until it ends or waits for time to pass. -/
def run : Nat → Subscriber → Subscriber × Option Outcome
  | 0, s => (s, none)
  | fuel + 1, s =>
    match advance? s with
    | none => (s, none)
    | some (s, some outcome) => (s, some outcome)
    | some (s, none) => run fuel s

/-- A whole call that is given up when it would have to wait: it looks, reads, may be woken once by
a value it has not seen, and looks and reads again. -/
def next (s : Subscriber) : Subscriber × Option Outcome :=
  let (s, outcome) := run 8 { s with subscription := (s.subscription.step .begin).1 }
  ({ s with subscription := (s.subscription.step .abandon).1 }, outcome)

end Subscriber

end RegistryFeed
