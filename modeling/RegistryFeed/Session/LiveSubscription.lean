import RegistryFeed.Session.Live

/-! # Subscriptions on a living log

A subscription together with the log that it reads and its view of the signal, while its caller
calls for one batch after the other and gives calls up, other programs write to the log, and the
sender gives values or goes away. A page is read at one moment and reaches the call at a later one.
Nothing is assumed about the order of the events. -/
namespace RegistryFeed

/-- What is pending is the reply to the question of the call, on its way. -/
structure LiveSubscription where
  subscription : Subscription
  log : LogView
  signal : Signal
  pending : Option Reply

namespace LiveSubscription

def create (source : Source) (after : Int) (batchSize : Nat) (log : LogView) (signal : Signal) :
    LiveSubscription :=
  ⟨.create source after batchSize, log, signal, none⟩

/-- The caller calls for a batch or gives its call up. The call looks at the signal, has slept for
its interval, or learns whether the signal has a new value or no sender; the log replies to its
question or cannot be read, and the reply reaches it. -/
inductive Event
  | begin
  | abandon
  | look
  | read
  | deliver
  | sleep
  | notice
  | fail (error : EngineError)
  | append (source : Source) (entry : Entry)
  | send (value : Bool)
  | detach
deriving Repr

/-- Who is behind an event. -/
inductive Party
  | caller
  | call
  | world
deriving DecidableEq, Repr

def Event.party : Event → Party
  | .begin | .abandon => .caller
  | .look | .read | .deliver | .sleep | .notice => .call
  | .fail _ | .append _ _ | .send _ | .detach => .world

/-- What happens to the call may make it give up its question. -/
def advance (s : LiveSubscription) (e : Subscription.Event) : LiveSubscription × Option Outcome :=
  let (subscription, outcome) := s.subscription.step e
  ({ s with
      subscription := subscription
      pending := if subscription.reading? = s.subscription.reading? then s.pending else none },
    outcome)

def ask (s : LiveSubscription) (reply : Reading → Reply) : LiveSubscription :=
  match s.subscription.reading? with
  | some question => { s with pending := some (reply question) }
  | none => s

/-- The call takes note of a new value and is woken; without a sender it ends. -/
def notice (s : LiveSubscription) : LiveSubscription × Option Outcome :=
  if s.subscription.call ≠ .waiting then (s, none)
  else if s.signal.fresh then { s with signal := s.signal.noted }.advance .wake
  else if s.signal.attached then (s, none)
  else s.advance .detached

def step (s : LiveSubscription) : Event → LiveSubscription × Option Outcome
  | .begin => s.advance .begin
  | .abandon => s.advance .abandon
  | .look => s.advance (.look s.signal.value)
  | .read => (s.ask s.log.reply, none)
  | .deliver =>
    match s.pending with
    | some (.page result) => { s with pending := none }.advance (.page result)
    | _ => (s, none)
  | .sleep => s.advance .wake
  | .notice => s.notice
  | .fail error => (s.ask (Reading.failed error), none)
  | .append source entry => ({ s with log := s.log.append source entry }, none)
  | .send value => ({ s with signal := s.signal.send value }, none)
  | .detach => ({ s with signal := s.signal.detach }, none)

/-- Runs events, and lists the ends of the calls in their order. -/
def run (s : LiveSubscription) : List Event → LiveSubscription × List Outcome
  | [] => (s, [])
  | e :: es => ((run (s.step e).1 es).1, (s.step e).2.toList ++ (run (s.step e).1 es).2)

end LiveSubscription

end RegistryFeed
