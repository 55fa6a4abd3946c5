import RegistryFeed.Change.MemoryLog
import RegistryFeed.Session.Inbox
import RegistryFeed.Session.Machine

/-! # Connections

A session together with what it talks to: the client's bytes, a change log and a clock. Time stands
still while anything can go on and otherwise moves to the next deadline. This is one of the orders
in which the events of a session can come. -/
namespace RegistryFeed

structure Connection (σ : Type) where
  session : Session
  inbox : Inbox
  log : σ
  now : Span

namespace Connection

variable {σ : Type}

/-- A session whose client has said all that it has to say. -/
def saying (context : SourceContext) (settings : SessionSettings) (bytes : List UInt8) (log : σ)
    (now : Span) : Connection σ :=
  ⟨.create context settings .quiet now, (Inbox.empty.receive bytes).close, log, now⟩

/-- The time at which a waiting session goes on by itself. -/
def deadline? (c : Connection σ) : Option Span :=
  match c.session.phase with
  | .reading deadline => some deadline
  | .tailing sub deadline => if sub.call = .waiting then some deadline else none
  | _ => none

/-- What a session that can read a line does with the next arrival. -/
def arrivalEvent : Arrival → Option Session.Event
  | .pending => none
  | .line text => some (.line text)
  | .garbled flaw => some (.garbled flaw.length flaw.index)
  | .closed => some .closed

def act (c : Connection σ) (e : Session.Event) : Connection σ :=
  { c with session := c.session.step c.now e }

/-- Whether the session would take a line now. -/
def listens (c : Connection σ) : Bool :=
  match c.session.phase with
  | .reading _ => true
  | .tailing sub _ => sub.call != .reading
  | _ => false

def deadlinePassed (c : Connection σ) : Bool :=
  match c.deadline? with
  | some d => d.nanos ≤ c.now.nanos
  | none => false

/-- One event that can happen now, if there is any: a reply, a line, a change of the signal, a look
at it, and last a deadline. -/
def advance? (source : LogSource σ) (c : Connection σ) : Option (Connection σ) :=
  match c.session.reading? with
  | some question =>
    let (reply, log) := source.reply c.log question
    some ({ c with log := log }.act (.reply reply))
  | none =>
    let (arrival, inbox) := c.inbox.next
    match if c.listens then arrivalEvent arrival else none with
    | some e => some ({ c with inbox := inbox }.act e)
    | none => match c.session.phase with
      | .ended _ => none
      | .tailing sub _ =>
        if sub.call = .looking then some (c.act .look)
        else if sub.call = .waiting && c.session.signal.wakes then some (c.act .notice)
        else if c.deadlinePassed then some (c.act .deadline)
        else none
      | _ =>
        if c.session.signal.wakes then some (c.act .notice)
        else if c.deadlinePassed then some (c.act .deadline)
        else none

/-- Lets at most so many events happen that can happen now. -/
def settleFor (source : LogSource σ) : Nat → Connection σ → Connection σ
  | 0, c => c
  | fuel + 1, c =>
    match advance? source c with
    | some c => settleFor source fuel c
    | none => c

/-- Enough events for everything that can happen at one time: every line and every entry takes a
few. -/
def eventsNow (source : LogSource σ) (c : Connection σ) : Nat :=
  4 * (c.inbox.bytes.length + source.size c.log) + 64

/-- Lets everything happen that can happen now. -/
def settle (source : LogSource σ) (c : Connection σ) : Connection σ :=
  settleFor source (eventsNow source c) c

/-- Lets the clock go on to a time, from deadline to deadline; those at that very time are left. -/
def runUntil (source : LogSource σ) (time : Span) : Nat → Connection σ → Connection σ
  | 0, c => { c with now := time }
  | fuel + 1, c =>
    match c.deadline? with
    | some d =>
      if d.nanos < time.nanos then runUntil source time fuel (settle source { c with now := d })
      else { c with now := time }
    | none => { c with now := time }

/-- Lets everything happen that can happen now, and then some milliseconds pass. -/
def pass (source : LogSource σ) (c : Connection σ) (millis : Nat) : Connection σ :=
  let c := c.settle source
  runUntil source (c.now.add (.ofMillis millis)) (millis + 1) c

/-- The client sends bytes. -/
def receive (c : Connection σ) (bytes : List UInt8) : Connection σ :=
  { c with inbox := c.inbox.receive bytes }

/-- The client sends nothing more. -/
def close (c : Connection σ) : Connection σ := { c with inbox := c.inbox.close }

end Connection

end RegistryFeed
