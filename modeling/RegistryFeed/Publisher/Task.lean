import RegistryFeed.Publisher.Basic
import RegistryFeed.Session.Signal

/-! # The task of a publisher

A publisher runs as a task of its own beside others: it gets turns, makes an attempt, and waits for
its timer. When it gets its first turn it takes note of the signal as it then is, so only what is
sent later wakes it. Before each wait it looks at the signal first and at the timer second. Nothing
is assumed about when it gets its turns or when the signal comes. -/
namespace RegistryFeed

/-- A piece of work that a task begins and then completes. -/
inductive Attempt
  | bootstrap
  | tick
deriving DecidableEq, Repr

inductive TaskPhase
  | spawned
  | working (attempt : Attempt)
  | waiting
  | stopped
deriving DecidableEq, Repr

/-- The loop of a task, apart from what its attempts do. A tick is due if the timer has fired and
none has begun since; all attempts begun are remembered. -/
structure TaskLoop where
  bootstraps : Bool
  phase : TaskPhase
  signal : Signal
  due : Bool
  begun : List Attempt
deriving DecidableEq, Repr

namespace TaskLoop

/-- The task gets a turn, its attempt is complete, its timer fires, or something happens to the
signal. -/
inductive Event
  | turn
  | done
  | timer
  | signal (value : Bool)
  | detached
deriving DecidableEq, Repr

def spawn (bootstraps : Bool) : TaskLoop := ⟨bootstraps, .spawned, .quiet, false, []⟩

def begin (l : TaskLoop) (a : Attempt) : TaskLoop :=
  { l with phase := .working a, begun := l.begun ++ [a] }

/-- Waits with a new timer, which fires at once for the first time. -/
def startTimer (l : TaskLoop) : TaskLoop := { l with phase := .waiting, due := true }

def turn (l : TaskLoop) : TaskLoop :=
  match l.phase with
  | .spawned =>
    let l := { l with signal := l.signal.noted }
    if l.bootstraps then l.begin .bootstrap else l.startTimer
  | .waiting =>
    if l.signal.fresh then
      let l := { l with signal := l.signal.noted }
      if l.signal.value then { l with phase := .stopped } else l
    else if !l.signal.attached then { l with phase := .stopped }
    else if l.due then { l with due := false }.begin .tick
    else l
  | _ => l

def step (l : TaskLoop) : Event → TaskLoop
  | .turn => l.turn
  | .done => match l.phase with
    | .working .bootstrap => l.startTimer
    | .working .tick => { l with phase := .waiting }
    | _ => l
  | .timer => match l.phase with
    | .working .tick | .waiting => { l with due := true }
    | _ => l
  | .signal value => { l with signal := l.signal.send value }
  | .detached => { l with signal := l.signal.detach }

/-- What becomes of a task when the events come one after another. -/
def run (l : TaskLoop) (es : List Event) : TaskLoop := es.foldl step l

/-- Whether a turn would change nothing. -/
def rests (l : TaskLoop) : Bool :=
  match l.phase with
  | .stopped => true
  | .waiting => !l.signal.wakes && !l.due
  | _ => false

end TaskLoop

structure PublisherTask where
  publisher : Publisher
  loop : TaskLoop
deriving Repr

namespace PublisherTask

def spawn (publisher : Publisher) (bootstraps : Bool) : PublisherTask :=
  ⟨publisher, .spawn bootstraps⟩

def act (t : PublisherTask) (e : TaskLoop.Event) : PublisherTask :=
  { t with loop := t.loop.step e }

/-- Completes the attempt of a task, or gives it a turn. -/
def advance (t : PublisherTask) (session : String) (site : Site) : PublisherTask × Site :=
  match t.loop.phase with
  | .working .bootstrap =>
    let (p, site) := t.publisher.bootstrap session site
    ({ t with publisher := p }.act .done, site)
  | .working .tick =>
    let (_, p, site) := t.publisher.tick site
    ({ t with publisher := p }.act .done, site)
  | _ => (t.act .turn, site)

/-- Lets a task go on until it rests or the fuel is used up. -/
def runFor (session : String) : Nat → PublisherTask → Site → PublisherTask × Site
  | 0, t, site => (t, site)
  | fuel + 1, t, site =>
    if t.loop.rests then (t, site)
    else
      let (t, site) := t.advance session site
      runFor session fuel t site

/-- Lets a task go on until it rests. It takes two steps for a bootstrap, one for the first turn,
one for a signal and two for a tick, and by itself does none of these twice. -/
def run (t : PublisherTask) (session : String) (site : Site) : PublisherTask × Site :=
  runFor session 8 t site

end PublisherTask

end RegistryFeed
