import RegistryFeed.Session.Connection
import RegistryFeed.Session.Live

/-! # Dialogues

A client that says some lines and nothing more, and a session that answers it from a living log.
What the client says is there from the beginning and the session takes it line by line, at any time
at which it listens; replies of the log and other programs come in between, in any order. No signal
is given, no client stays silent for too long, and nothing fails. -/
namespace RegistryFeed

/-- The bytes are these lines. A line ends with a line feed, perhaps behind a carriage return; what
is behind the last line feed is a line too, and a carriage return belongs to it. -/
inductive Inbox.Says : List UInt8 → List String → Prop
  | nothing : Says [] []
  | fed {front rest : List UInt8} {line : String} {lines : List String} (whole : 10 ∉ front)
      (plain : front.getLast? ≠ some 13) (text : Utf8.decode front = .ok line)
      (later : Says rest lines) : Says (front ++ 10 :: rest) (line :: lines)
  | returned {front rest : List UInt8} {line : String} {lines : List String} (whole : 10 ∉ front)
      (text : Utf8.decode front = .ok line) (later : Says rest lines) :
      Says (front ++ 13 :: 10 :: rest) (line :: lines)
  | unfed {front : List UInt8} {line : String} (present : front ≠ []) (whole : 10 ∉ front)
      (text : Utf8.decode front = .ok line) : Says front [line]

structure Dialogue where
  live : LiveSession
  inbox : Inbox

namespace Dialogue

/-- The session takes what comes next from the client, if it listens; its subscription looks at the
signal or has waited for its interval; the log replies to the question, and the reply reaches the
session. -/
inductive Event
  | take (now : Span)
  | look (now : Span)
  | wake (now : Span)
  | read
  | deliver (now : Span)
  | append (source : Source) (entry : Entry)
  | publish (source : Source) (version : VersionInfo)
deriving Repr

def create (context : SourceContext) (settings : SessionSettings) (log : LogView)
    (bytes : List UInt8) (now : Span) : Dialogue :=
  ⟨⟨.create context settings .quiet now, log, none⟩, ⟨bytes, true⟩⟩

def isTailing (d : Dialogue) : Bool :=
  match d.live.session.phase with
  | .tailing _ _ => true
  | _ => false

/-- A line is heard between two requests, and at any time behind an accepted one with keepalive. -/
def listens (d : Dialogue) : Bool :=
  match d.live.session.phase with
  | .reading _ => true
  | _ => d.isTailing

def step (d : Dialogue) : Event → Dialogue
  | .take now =>
    if d.listens then
      match Connection.arrivalEvent d.inbox.next.1 with
      | some e => ⟨d.live.step (.act now e), d.inbox.next.2⟩
      | none => d
    else d
  | .look now => { d with live := d.live.step (.act now .look) }
  | .wake now => if d.isTailing then { d with live := d.live.step (.act now .deadline) } else d
  | .read => { d with live := d.live.step .read }
  | .deliver now => { d with live := d.live.step (.deliver now) }
  | .append source entry => { d with live := d.live.step (.append source entry) }
  | .publish source version => { d with live := d.live.step (.publish source version) }

def run (d : Dialogue) (es : List Event) : Dialogue := es.foldl step d

/-- The dialogue behind the first events of a schedule. -/
def after (d : Dialogue) (schedule : Nat → Event) (n : Nat) : Dialogue :=
  d.run ((List.range n).map schedule)

def logAfter (d : Dialogue) (es : List Event) : LogView := (d.run es).live.log

/-- The session comes to take what the client says, and to get replies, again and again. -/
structure Fair (schedule : Nat → Event) : Prop where
  takes : ∀ n, ∃ m ≥ n, ∃ now, schedule m = .take now
  reads : ∀ n, ∃ m ≥ n, schedule m = .read
  delivers : ∀ n, ∃ m ≥ n, ∃ now, schedule m = .deliver now

/-! ## What is to be read -/

section

variable (ctx : SourceContext) (seen : LogView → Prop)

/-- The line is turned down for the fault: it cannot be parsed, or some state of the log does not
have the range that it asks for. -/
inductive Declined (line : String) : Request.Fault → Prop
  | rejected {f : Request.Fault} (h : Request.parse ctx line = .error f) : Declined line f
  | refused {source : Source} {first : Int} {final : Request.RangeEnd} {keepalive : Bool}
      {v : LogView} {f : Request.Fault}
      (h : Request.parse ctx line = .ok (.changes source first final keepalive)) (state : seen v)
      (outside : changesText source first final keepalive (v.entries source) = .error f) :
      Declined line f

/-- What an answer says of one source. Each part may be read from a state of its own. -/
inductive Part (source : Source) : Request.InfoOption → String → Prop
  | sources {v : LogView} (state : seen v) :
      Part source .sources (sourceLine source (serialRange (v.entries source)))
  | version {v w : LogView} (serials : seen v) (latest : seen w) :
      Part source .version (serialsLine source (serialRange (v.entries source)) ++
        ((w.latest source).map (versionLine source)).getD "")

/-- The parts of some sources, one behind the other. -/
inductive Parts (option : Request.InfoOption) : List Source → String → Prop
  | nil : Parts option [] ""
  | cons {source : Source} {sources : List Source} {text more : String}
      (part : Part seen source option text) (others : Parts option sources more) :
      Parts option (source :: sources) (text ++ more)

/-- The complete answer to a line that is accepted, and is the last to be answered. -/
inductive Completed (line : String) : String → Prop
  | info {source : Source} {option : Request.InfoOption} {text : String}
      (h : Request.parse ctx line = .ok (.info source option))
      (parts : Parts seen option ctx.servable text) :
      Completed line (heading option ++ text ++ "\n")
  | changes {source : Source} {first : Int} {final : Request.RangeEnd} {v : LogView}
      {text : String} (h : Request.parse ctx line = .ok (.changes source first final false))
      (state : seen v)
      (served : changesText source first final false (v.entries source) = .ok text) :
      Completed line text

/-- The complete range of a keepalive request, and behind it the frames of later entries: from the
end of the range on, in order, none left out. -/
inductive Followed (log : LogView) (line : String) : String → Prop
  | changes {source : Source} {first : Int} {final : Request.RangeEnd} {v : LogView}
      {r : SerialRange} {text : String} {frames : List Entry}
      (h : Request.parse ctx line = .ok (.changes source first final true)) (state : seen v)
      (range : serialRange (v.entries source) = some r)
      (served : changesText source first final true (v.entries source) = .ok text)
      (later : frames <+: entriesAfter (log.entries source) (final.resolve r.last)) :
      Followed log line (text ++ framesText frames)

/-- What a client that says these lines reads, and how its session ends. -/
inductive Answered (log : LogView) : List String → String → SessionEnd → Prop
  | closed : Answered log [] "" .clientClosed
  | declined {line : String} {lines : List String} {f : Request.Fault} {text : String}
      {e : SessionEnd} (first : Declined ctx seen line f) (later : Answered log lines text e) :
      Answered log (line :: lines) (rejectionText f ++ text) e
  | completed {line : String} {lines : List String} {text : String}
      (answer : Completed ctx seen line text) : Answered log (line :: lines) text .completed
  | followed {line : String} {lines : List String} {text : String}
      (answer : Followed ctx seen log line text) :
      Answered log (line :: lines) text .clientClosed

end

end Dialogue

end RegistryFeed
