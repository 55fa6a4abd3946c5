import RegistryFeed.Session.Machine
import RegistryFeed.Session.Transcript

/-! # Sessions on a living log

A session and the log that it reads, which other programs go on writing to. A question to the log is
answered from the log as it is at one moment and the answer reaches the session at a later one; what
happens in between may make the session give up its question, and then the answer is lost. Nothing
is assumed about the order of the events, nor about the clock. -/
namespace RegistryFeed

/-- The reply to a reading. -/
def LogView.reply (v : LogView) : Reading → Reply
  | .range source => .range (.ok (serialRange (v.entries source)))
  | .page source after max => .page (.ok ((entriesAfter (v.entries source) after).take max))
  | .latest source => .latest (.ok (v.latest source))

/-- The reply of a log that cannot be read. -/
def Reading.failed (error : EngineError) : Reading → Reply
  | .range _ => .range (.error error)
  | .page _ _ _ => .page (.error error)
  | .latest _ => .latest (.error error)

/-- Puts an entry at the end of the log of a source. An entry that is not above all others is
refused. -/
def LogView.append (v : LogView) (source : Source) (e : Entry) : LogView :=
  if (v.entries source).all (·.serial < e.serial) then
    { v with entries := fun s => if s = source then v.entries s ++ [e] else v.entries s }
  else v

def LogView.publish (v : LogView) (source : Source) (version : VersionInfo) : LogView :=
  { v with latest := fun s => if s = source then some version else v.latest s }

/-- What is pending is the reply to the question of the session, on its way. -/
structure LiveSession where
  session : Session
  log : LogView
  pending : Option Reply

namespace LiveSession

/-- Something other than a reply happens to the session; the log replies to its question, or cannot
be read; the reply reaches the session; the log is written to. -/
inductive Event
  | act (now : Span) (e : Session.Event)
  | read
  | fail (error : EngineError)
  | deliver (now : Span)
  | append (source : Source) (entry : Entry)
  | publish (source : Source) (version : VersionInfo)
deriving Repr

/-- What is on its way is a reply to the question at hand; without a question there is none. -/
def ask (s : LiveSession) (reply : Reading → Reply) : LiveSession :=
  match s.session.reading? with
  | some question => { s with pending := some (reply question) }
  | none => s

def step (s : LiveSession) : Event → LiveSession
  | .act _ (.reply _) => s
  | .act now e =>
    let session := s.session.step now e
    { s with
      session := session
      pending := if session.reading? = s.session.reading? then s.pending else none }
  | .read => s.ask s.log.reply
  | .fail error => s.ask (Reading.failed error)
  | .deliver now =>
    match s.pending with
    | some reply => { s with session := s.session.step now (.reply reply), pending := none }
    | none => s
  | .append source entry => { s with log := s.log.append source entry }
  | .publish source version => { s with log := s.log.publish source version }

def run (s : LiveSession) (es : List Event) : LiveSession := es.foldl step s

def logAfter (s : LiveSession) (es : List Event) : LogView := (s.run es).log

end LiveSession

/-- The log as it is at some time of the events, given what it is behind the first of them. -/
def Shown {ε : Type} (log : List ε → LogView) (es : List ε) (v : LogView) : Prop :=
  ∃ front back, es = front ++ back ∧ log front = v

end RegistryFeed
