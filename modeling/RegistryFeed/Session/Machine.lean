import RegistryFeed.Metrics
import RegistryFeed.Request.Parser
import RegistryFeed.Session.Frame
import RegistryFeed.Session.Outbox
import RegistryFeed.Session.Signal
import RegistryFeed.Session.Subscription
import RegistryFeed.Settings

/-! # Sessions

One client, from its first line to the end. A session reads lines and answers them; a rejected line
leaves it reading, an accepted one is the last. It stands in one phase at a time, and each phase
waits for a few events: a line, the client's leaving, a deadline, the signal, or the reply of the
change log to a question. Nothing is assumed about the order in which they come, and an event that
the phase does not wait for changes nothing. -/
namespace RegistryFeed

/-- How a session ends when nothing fails. -/
inductive SessionEnd
  | completed
  | clientClosed
  | idleTimeout
  | cancelled
deriving DecidableEq, Repr

def SessionEnd.all : List SessionEnd := [.completed, .clientClosed, .idleTimeout, .cancelled]

def SessionEnd.label : SessionEnd → String
  | .completed => "completed"
  | .clientClosed => "client_closed"
  | .idleTimeout => "idle_timeout"
  | .cancelled => "cancelled"

/-- A session reads lines until a deadline; or it collects an answer about sources, waiting for the
range of one and then for its latest version; or it checks the range of a request, pages through it
from a cursor to its last serial, and follows the log behind it, until the deadline of the present
wait. -/
inductive Phase
  | reading (deadline : Span)
  | describing (option : Request.InfoOption) (source : Source) (more : List Source) (text : String)
  | versioning (source : Source) (more : List Source) (text : String)
  | checking (source : Source) (first : Int) (final : Request.RangeEnd) (keepalive : Bool)
  | paging (source : Source) (cursor last : Int) (streamed : Nat) (keepalive : Bool)
  | tailing (subscription : Subscription) (deadline : Span)
  | ended (result : Except EngineError SessionEnd)
deriving Repr

structure Session where
  context : SourceContext
  settings : SessionSettings
  signal : Signal
  outbox : Outbox
  phase : Phase
  startedAt : Span
  observed : List Observation
deriving Repr

namespace Session

/-- A line comes, perhaps one that is no text; the client sends nothing more, or is gone and cannot
be sent anything. A deadline passes. A value is given on the signal, or its sender is gone, which
the session notices at a time of its own; its subscription looks at the value. The log replies. -/
inductive Event
  | line (text : String)
  | garbled (length : Option Nat) (index : Nat)
  | closed
  | gone
  | deadline
  | signal (value : Bool)
  | detached
  | notice
  | look
  | reply (r : Reply)
deriving Repr

/-- A session that waits for its first line. -/
def create (context : SourceContext) (settings : SessionSettings) (signal : Signal) (now : Span) :
    Session :=
  ⟨context, settings, signal, .empty, .reading (now.deadline settings.idle), now, []⟩

def result? (s : Session) : Option (Except EngineError SessionEnd) :=
  match s.phase with
  | .ended result => some result
  | _ => none

/-- The question to the log that the session waits for. -/
def reading? (s : Session) : Option Reading :=
  match s.phase with
  | .describing _ source _ _ => some (.range source)
  | .versioning source _ _ => some (.latest source)
  | .checking source _ _ _ => some (.range source)
  | .paging source cursor _ _ _ => some (.page source cursor s.settings.batch)
  | .tailing sub _ => sub.reading?
  | _ => none

def observe (s : Session) (os : List Observation) : Session :=
  { s with observed := s.observed ++ os }

/-- Ends the session: what is held back is sent if it can be. -/
def finish (s : Session) (now : Span) (result : Except EngineError SessionEnd) : Session :=
  let label := match result with
    | .ok e => e.label
    | .error _ => "error"
  { s with outbox := s.outbox.close, phase := .ended result }.observe
    [.sessionClosed label (now.sub s.startedAt)]

/-- Writes texts and goes on; if they cannot be sent the session ends. -/
def emit (s : Session) (now : Span) (flush : Bool) (texts : List String)
    (next : Session → Session) : Session :=
  match (do
    let o ← s.outbox.writeAll texts
    if flush then o.flush else pure o) with
  | .ok o => next { s with outbox := o }
  | .error fault => s.finish now (.error (.io fault))

def readOn (now : Span) (s : Session) : Session :=
  { s with phase := .reading (now.deadline s.settings.idle) }

/-- Answers a rejected request and reads on. -/
def reject (s : Session) (now : Span) (f : Request.Fault) : Session :=
  (s.observe [.protocolError f.code.number]).emit now true [f.line ++ "\n\n"] (readOn now)

/-- Sends the collected answer to an information query. -/
def answer (s : Session) (now : Span) (kind text : String) : Session :=
  s.emit now true [text ++ "\n"] fun s =>
    (s.observe [.query kind "ok"]).finish now (.ok .completed)

/-- The next source of an information query, or its end. -/
def describe (s : Session) (now : Span) (option : Request.InfoOption) (more : List Source)
    (text : String) : Session :=
  match more with
  | source :: more => { s with phase := .describing option source more text }
  | [] => match option with
    | .sources => s.answer now "sources" text
    | .version => s.answer now "version" text

def request (s : Session) (now : Span) (line : String) : Session :=
  match Request.parse s.context line with
  | .error f => (s.observe [.query "invalid" "error"]).reject now f
  | .ok (.info _ .sources) => s.describe now .sources s.context.servable ""
  | .ok (.info _ .version) =>
    s.describe now .version s.context.servable (serverVersionLine ++ "\n")
  | .ok (.changes source first final keepalive) =>
    { s with phase := .checking source first final keepalive }

/-- The last serial of a request that the log can serve. -/
def checkRange (first : Int) (final : Request.RangeEnd) (available : Option SerialRange) :
    Except Request.Fault Int :=
  match available with
  | none => .error (.outOfRange 0 0)
  | some r =>
    let last := final.resolve r.last
    if r.contains first && last ≤ r.last then .ok last else .error (.outOfRange r.first r.last)

/-- The end of the requested range: the end line, or the subscription to what follows. -/
def rangeServed (s : Session) (now : Span) (source : Source) (last : Int) (streamed : Nat)
    (keepalive : Bool) : Session :=
  s.emit now true [] fun s =>
    let s := s.observe [.entriesStreamed source.name streamed]
    if keepalive then
      let sub := (Subscription.create source last s.settings.batch).step .begin
      { s with phase := .tailing sub.1 now }
    else s.emit now true [endText source] fun s => s.finish now (.ok .completed)

/-- Streams on from a cursor, or ends the range. -/
def page (s : Session) (now : Span) (source : Source) (cursor last : Int) (streamed : Nat)
    (keepalive : Bool) : Session :=
  if cursor < last then { s with phase := .paging source cursor last streamed keepalive }
  else s.rangeServed now source last streamed keepalive

/-- A page has come: its entries up to the end of the range are written. A page that is not full,
or that reaches past the end, is the last one. -/
def turnPage (s : Session) (now : Span) (source : Source) (cursor last : Int) (streamed : Nat)
    (keepalive : Bool) (entries : List Entry) : Session :=
  let inside := entries.takeWhile fun e => e.serial ≤ last
  s.emit now false (inside.map fun e => (Frame.ofEntry e).text) fun s =>
    let cursor := ((inside.getLast?).map (·.serial)).getD cursor
    let streamed := streamed + inside.length
    let isLast := entries.length < s.settings.batch ||
      ((entries.getLast?).map fun e => decide (last < e.serial)).getD true
    if isLast then s.rangeServed now source last streamed keepalive
    else s.page now source cursor last streamed keepalive

/-- The range of a request for changes has come. -/
def serveRange (s : Session) (now : Span) (source : Source) (first : Int)
    (final : Request.RangeEnd) (keepalive : Bool) (available : Option SerialRange) : Session :=
  match checkRange first final available with
  | .error f => (s.observe [.query "mirror" "error"]).reject now f
  | .ok last =>
    (s.observe [.query "mirror" "ok"]).emit now false [startText source first last] fun s =>
      s.page now source (first - 1) last 0 keepalive

/-- The subscription of a session goes one step; the session acts on the outcome of a call, and
begins the next call after a batch. -/
def tail (s : Session) (now deadline : Span) (sub : Subscription) (e : Subscription.Event) :
    Session :=
  match sub.step e with
  | (sub, none) =>
    let deadline := match e with
      | .page _ => now.deadline s.settings.poll
      | _ => deadline
    { s with phase := .tailing sub deadline }
  | (sub, some (.batch entries)) =>
    s.emit now true (entries.map fun e => (Frame.ofEntry e).text) fun s =>
      { s.observe [.entriesStreamed sub.source.name entries.length] with
        phase := .tailing (sub.step .begin).1 now }
  | (sub, some .cancelled) =>
    s.emit now true [endText sub.source] fun s => s.finish now (.ok .cancelled)
  | (_, some (.failed error)) => s.finish now (.error error)

/-- One step of a session at a time. -/
def step (s : Session) (now : Span) (e : Event) : Session :=
  match e with
  | .signal value => { s with signal := s.signal.send value }
  | .detached => { s with signal := s.signal.detach }
  | .gone => { s with outbox := { s.outbox with broken := true } }
  | e => match s.phase, e with
    | .reading _, .line text => s.request now text
    | .reading _, .closed => s.finish now (.ok .clientClosed)
    | .reading _, .garbled length index => s.finish now (.error (.io (.notUtf8 length index)))
    | .reading deadline, .deadline =>
      if deadline.nanos ≤ now.nanos then s.finish now (.ok .idleTimeout) else s
    | .reading _, .notice => if s.signal.wakes then s.finish now (.ok .cancelled) else s
    | .describing _ _ _ _, .reply (.range (.error error))
    | .versioning _ _ _, .reply (.latest (.error error))
    | .checking _ _ _ _, .reply (.range (.error error))
    | .paging _ _ _ _ _, .reply (.page (.error error)) => s.finish now (.error error)
    | .describing .sources source more text, .reply (.range (.ok r)) =>
      s.describe now .sources more (text ++ sourceLine source r)
    | .describing .version source more text, .reply (.range (.ok r)) =>
      { s with phase := .versioning source more (text ++ serialsLine source r) }
    | .versioning source more text, .reply (.latest (.ok v)) =>
      s.describe now .version more
        (text ++ match v with
          | some v => versionLine source v
          | none => "")
    | .checking source first final keepalive, .reply (.range (.ok r)) =>
      s.serveRange now source first final keepalive r
    | .paging source cursor last streamed keepalive, .reply (.page (.ok entries)) =>
      s.turnPage now source cursor last streamed keepalive entries
    | .tailing sub deadline, .look => s.tail now deadline sub (.look s.signal.value)
    | .tailing sub deadline, .reply (.page result) => s.tail now deadline sub (.page result)
    | .tailing sub deadline, .deadline =>
      if deadline.nanos ≤ now.nanos then s.tail now deadline sub .wake else s
    | .tailing sub deadline, .notice =>
      if sub.call ≠ .waiting then s
      else if s.signal.fresh then
        { s with signal := s.signal.noted }.tail now deadline sub .wake
      else if s.signal.attached then s
      else s.tail now deadline sub .detached
    | .tailing sub _, .line _ =>
      { s with phase := .tailing ((sub.step .abandon).1.step .begin).1 now }
    | .tailing _ _, .closed | .tailing _ _, .garbled _ _ => s.finish now (.ok .clientClosed)
    | _, _ => s

end Session

end RegistryFeed
